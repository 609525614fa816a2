import Checkout.Proofs.Url.Path

/-! Addresses below a base address. What is put behind the final slash of the base changes neither
its machine nor its segments: it is tidied, cut at slashes, and resolved behind these segments. -/
namespace Checkout

namespace Text
variable {p : Char → Bool}

lemma takeWhile_append_cons {c : Char} (hc : p c = false) (a b : List Char) :
    (a ++ c :: b).takeWhile p = a.takeWhile p := by
  induction a with
  | nil => simp [hc]
  | cons d a ih => simp only [List.cons_append, List.takeWhile_cons, ih]

lemma dropWhile_append_cons {c : Char} (hc : p c = false) (a b : List Char) :
    (a ++ c :: b).dropWhile p = a.dropWhile p ++ c :: b := by
  induction a with
  | nil => simp [hc]
  | cons d a ih =>
    simp only [List.cons_append, List.dropWhile_cons, ih]
    split <;> rfl

lemma takeWhile_append_cons_of_forall {a : List Char} {c : Char} (h : ∀ d ∈ a ++ [c], p d = true)
    (b : List Char) : (a ++ c :: b).takeWhile p = a ++ c :: b.takeWhile p := by
  rw [← List.singleton_append, ← List.append_assoc, List.takeWhile_append_of_pos h]
  simp

lemma dropWhile_append_cons_of_forall {a : List Char} {c : Char} (h : ∀ d ∈ a ++ [c], p d = true)
    (b : List Char) : (a ++ c :: b).dropWhile p = b.dropWhile p := by
  rw [← List.singleton_append, ← List.append_assoc, List.dropWhile_append_of_pos h]

lemma drop_length_takeWhile (p : Char → Bool) (cs : List Char) :
    cs.drop (cs.takeWhile p).length = cs.dropWhile p := by
  have h := List.takeWhile_append_dropWhile (p := p) (l := cs)
  calc cs.drop (cs.takeWhile p).length
      = (cs.takeWhile p ++ cs.dropWhile p).drop (cs.takeWhile p).length := by rw [h]
    _ = cs.dropWhile p := List.drop_left

lemma eq_false_of_head?_dropWhile {c : Char} {cs : List Char} (h : (cs.dropWhile p).head? = some c) :
    p c = false := by
  have hhead := List.head?_dropWhile_not p cs
  rwa [h] at hhead

end Text

namespace Url

open Checkout.Text (splitWhere takeWhile_append_cons dropWhile_append_cons drop_length_takeWhile
  eq_false_of_head?_dropWhile)

/-- The text without controls and spaces at its end and without tabs and line ends. -/
def tidy (cs : List Char) : List Char :=
  ((cs.reverse.dropWhile isEdge).reverse).filter (!isDropped ·)

/-- The address that a tidy text gives below the named segments of a base address. -/
def under (base : Url) (names : List (List Char)) (cs : List Char) : Url :=
  let below := splitWhere (isSlash true) (cs.takeWhile (!endsPath ·))
  let (query, fragment) := tailOf true (cs.dropWhile (!endsPath ·))
  { base with path := .segments (resolve names.reverse below), query := query, fragment := fragment }

lemma reverse_dropWhile_sublist (cs : List Char) :
    (cs.reverse.dropWhile isEdge).reverse.Sublist cs := by
  simpa using (List.dropWhile_sublist isEdge (l := cs.reverse)).reverse

/-- A text in which nothing is dropped is tidy exactly if it ends in no edge. -/
lemma tidy_eq_self_iff {cs : List Char} (h : ∀ c ∈ cs, isDropped c = false) :
    tidy cs = cs ↔ ∀ c ∈ cs.getLast?, isEdge c = false := by
  have htidy : tidy cs = (cs.reverse.dropWhile isEdge).reverse := by
    refine List.filter_eq_self.mpr fun c hc => ?_
    simp [h c ((reverse_dropWhile_sublist cs).mem hc)]
  rw [htidy, List.reverse_eq_iff, ← List.head?_reverse]
  constructor
  · intro hself c hc
    exact eq_false_of_head?_dropWhile (hself ▸ hc)
  · intro hlast
    cases hcs : cs.reverse with
    | nil => rfl
    | cons c rest =>
      have hc : isEdge c = false := hlast c (by rw [hcs]; rfl)
      rw [List.dropWhile_cons, hc, if_neg (by decide)]

/-- Behind a slash, a text is tidied on its own. -/
lemma tidy_append_slash (front cs : List Char) :
    tidy (front ++ '/' :: cs) = front.filter (!isDropped ·) ++ '/' :: tidy cs := by
  have hslash : isEdge '/' = false := by decide
  have hkept : (!isDropped '/') = true := by decide
  rw [tidy, List.reverse_append, List.reverse_cons, List.append_assoc, List.singleton_append,
    dropWhile_append_cons hslash]
  simp [hkept, tidy]

lemma clean_append_slash (front cs : List Char) :
    clean (front ++ '/' :: cs) =
      (front.dropWhile isEdge).filter (!isDropped ·) ++ '/' :: tidy cs := by
  have hslash : isEdge '/' = false := by decide
  have hclean : clean (front ++ '/' :: cs) = tidy ((front ++ '/' :: cs).dropWhile isEdge) := rfl
  rw [hclean, dropWhile_append_cons hslash, tidy_append_slash]

lemma scheme?_append_slash {front rest : List Char} {scheme : String}
    (h : scheme? (front ++ ['/']) = some (scheme,rest)) :
    ∃ inner, rest = inner ++ ['/'] ∧
      ∀ cs, scheme? (front ++ '/' :: cs) = some (scheme,inner ++ '/' :: cs) := by
  have hslash : isSchemeChar '/' = false := by decide
  have hcut (cs : List Char) : (front ++ '/' :: cs).drop (front.takeWhile isSchemeChar).length =
      front.dropWhile isSchemeChar ++ '/' :: cs := by
    rw [← takeWhile_append_cons hslash front cs, drop_length_takeWhile, dropWhile_append_cons hslash]
  simp only [scheme?, takeWhile_append_cons hslash, hcut] at h ⊢
  cases hfront : front.takeWhile isSchemeChar with
  | nil => simp [hfront] at h
  | cons c letters =>
    cases hrest : front.dropWhile isSchemeChar with
    | nil => simp [hfront, hrest] at h
    | cons d inner =>
      by_cases hd : d = ':'
      · subst hd
        simp only [hfront, hrest, List.cons_append] at h ⊢
        split_ifs at h ⊢
        cases h
        exact ⟨inner,rfl,fun _ => rfl⟩
      · simp [hfront, hrest, hd] at h

lemma scheme_of_ofAuthority? {scheme : String} {cs : List Char} {url : Url}
    (h : ofAuthority? scheme cs = some url) : url.scheme = scheme := by
  unfold ofAuthority? at h
  dsimp only at h
  split_ifs at h
  all_goals
    simp only [Option.bind_eq_bind, Option.bind_eq_some_iff] at h
    obtain ⟨host,-,port,-,h⟩ := h
    cases h
    rfl

lemma scheme_withoutAuthority (scheme : String) (cs : List Char) :
    (withoutAuthority scheme cs).scheme = scheme := by
  unfold withoutAuthority
  dsimp only
  split <;> rfl

lemma scheme_of_ofText? {s : String} {url : Url} (h : ofText? s = some url) :
    ∃ rest, scheme? (clean s.toList) = some (url.scheme,rest) := by
  simp only [ofText?, Option.bind_eq_bind, Option.bind_eq_some_iff] at h
  obtain ⟨⟨scheme,rest⟩,hscheme,h⟩ := h
  have hurl : url.scheme = scheme := by
    dsimp only at h
    split at h
    · split at h
      · split at h
        · exact scheme_of_ofAuthority? h
        · exact scheme_of_ofAuthority? h
      · exact scheme_of_ofAuthority? h
    · split at h
      · exact scheme_of_ofAuthority? h
      · split at h
        · exact scheme_of_ofAuthority? h
        · cases h
          exact scheme_withoutAuthority scheme rest
  exact ⟨rest,hurl ▸ hscheme⟩

/-- Whether a scheme is one of the web. -/
def IsWeb (scheme : String) : Prop := scheme = "http" ∨ scheme = "https"

lemma IsWeb.isSpecial {scheme : String} (h : IsWeb scheme) : Url.isSpecial scheme = true := by
  rcases h with rfl | rfl <;> rfl

lemma IsWeb.ne_file {scheme : String} (h : IsWeb scheme) : scheme ≠ "file" := by
  rcases h with rfl | rfl <;> decide

lemma ofText?_of_web {s scheme : String} {rest : List Char} (hweb : IsWeb scheme)
    (h : scheme? (clean s.toList) = some (scheme,rest)) :
    ofText? s = ofAuthority? scheme (rest.dropWhile (isSlash true)) := by
  simp [ofText?, h, hweb.ne_file, hweb.isSpecial]

/-- Whether a character belongs to the part that names a machine. -/
def inAuthority (c : Char) : Bool := !isSlash true c && !endsPath c

/-- The host and the port of an authority. -/
def machine? (scheme : String) (authority : List Char) : Option (String × Option ℕ) :=
  let (hostText, portText) := splitPort (afterUser authority)
  (host? hostText).bind fun host => (port? scheme portText).map fun port => (host,port)

lemma ofAuthority?_of_web {scheme : String} (hweb : IsWeb scheme) (cs : List Char) :
    ofAuthority? scheme cs = (machine? scheme (cs.takeWhile inAuthority)).map fun (host,port) =>
      let rest := cs.dropWhile inAuthority
      let (query,fragment) := tailOf true (rest.dropWhile (!endsPath ·))
      ⟨scheme,some host,port,pathOf true (rest.takeWhile (!endsPath ·)),query,fragment⟩ := by
  unfold ofAuthority? machine?
  have hin : (fun c => !isSlash true c && !endsPath c) = inAuthority := rfl
  simp only [hweb.isSpecial, hin, hweb.ne_file, false_and, if_false, drop_length_takeWhile]
  cases host? (splitPort (afterUser (cs.takeWhile inAuthority))).1 with
  | none => rfl
  | some host =>
    cases port? scheme (splitPort (afterUser (cs.takeWhile inAuthority))).2 with
    | none => rfl
    | some port => rfl

lemma v4Text?_ne_empty (cs : List Char) : v4Text? cs ≠ some "" := by
  intro h
  unfold v4Text? at h
  simp only [Option.bind_eq_bind, Option.bind_eq_some_iff] at h
  obtain ⟨parts,-,h⟩ := h
  split_ifs at h
  simp only [Option.bind_eq_some_iff] at h
  obtain ⟨last,-,h⟩ := h
  split_ifs at h
  have hfour (a b c d : String) :
      ".".intercalate [a,b,c,d] = a ++ "." ++ b ++ "." ++ c ++ "." ++ d := rfl
  have hpoint : ".".length = 1 := rfl
  have hlength := congrArg String.length (Option.some.inj h)
  simp only [List.map_cons, List.map_nil, hfour, String.length_append, hpoint, String.length_empty]
    at hlength
  omega

/-- A host is never the empty text. -/
lemma host?_ne_empty (cs : List Char) : host? cs ≠ some "" := by
  intro h
  unfold host? at h
  split at h
  · split_ifs at h
    obtain ⟨groups,-,h⟩ := Option.map_eq_some_iff.mp h
    have hlength := congrArg String.length h
    simp [String.length_append] at hlength
  · dsimp only at h
    split_ifs at h with hname hnumber
    · exact v4Text?_ne_empty _ h
    · have hlist := congrArg String.toList (Option.some.inj h)
      rw [String.toList_ofList] at hlist
      exact hname (.inl hlist)

lemma hasHost_of_web {s : String} {url : Url} (hweb : IsWeb url.scheme) (h : ofText? s = some url) :
    url.hasHost = true := by
  obtain ⟨rest,hscheme⟩ := scheme_of_ofText? h
  rw [ofText?_of_web hweb hscheme, ofAuthority?_of_web hweb] at h
  obtain ⟨⟨host,port⟩,hmachine,hurl⟩ := Option.map_eq_some_iff.mp h
  simp only [machine?, Option.bind_eq_some_iff, Option.map_eq_some_iff, Prod.mk.injEq] at hmachine
  obtain ⟨host',hhost,port',-,rfl,rfl⟩ := hmachine
  have hurl : url.host = some host' := (congrArg Url.host hurl).symm
  simp only [hasHost, hurl, Option.getD_some, bne_iff_ne]
  rintro rfl
  exact host?_ne_empty _ hhost

lemma forall_of_tailOf {cs : List Char} (h : tailOf true (cs.dropWhile (!endsPath ·)) = (none,none)) :
    ∀ c ∈ cs, (!endsPath c) = true := by
  rw [← List.dropWhile_eq_nil_iff]
  cases hrest : cs.dropWhile (!endsPath ·) with
  | nil => rfl
  | cons c rest =>
    have hc : (!endsPath c) = false := eq_false_of_head?_dropWhile (by rw [hrest]; rfl)
    rw [hrest] at h
    simp only [endsPath, Bool.not_eq_false', Bool.or_eq_true, beq_iff_eq] at hc
    rcases hc with rfl | rfl
    · simp [tailOf] at h
    · simp [tailOf] at h

/-- The segments before the slash that ends a path are in front of whatever is behind it. -/
lemma exists_pathOf_eq {front : List Char} (hfront : ∀ c ∈ front.head?, isSlash true c = true) :
    ∃ names : List (List Char), (∀ name ∈ names, IsSegment name) ∧
      ∀ cs, pathOf true (front ++ '/' :: cs) =
        .segments (resolve names.reverse (splitWhere (isSlash true) cs)) := by
  have hslash : isSlash true '/' = true := by decide
  cases front with
  | nil => exact ⟨[],by simp,fun cs => rfl⟩
  | cons c front =>
    have hpieces : ∀ piece ∈ splitWhere (isSlash true) front, '/' ∉ piece := by
      intro piece hpiece hmem
      have := (Text.sublist_of_mem_splitWhere hpiece).2 '/' hmem
      simp [hslash] at this
    refine ⟨((splitWhere (isSlash true) front).foldl climb []).reverse,fun name hname => ?_,
      fun cs => ?_⟩
    · exact isSegment_of_mem_foldl_climb (by simp) hpieces name (List.mem_reverse.mp hname)
    · have hc : isSlash true c = true := hfront c rfl
      rw [List.reverse_reverse, ← resolve_append (Text.splitWhere_ne_nil _ cs),
        ← Text.splitWhere_append_cons front hslash]
      simp [pathOf, hc]

/-- What is read behind the final slash of an authority and a path goes below their segments. -/
lemma ofAuthority?_below {scheme : String} {front : List Char} {base : Url} (hweb : IsWeb scheme)
    (h : ofAuthority? scheme (front ++ ['/']) = some base) (hquery : base.query = none)
    (hfragment : base.fragment = none) :
    ∃ names, (∀ name ∈ names, IsSegment name) ∧ base.path = .segments (names ++ [[]]) ∧
      ∀ cs, ofAuthority? scheme (front ++ '/' :: cs) = some (base.under names cs) := by
  have hstops : inAuthority '/' = false := by decide
  simp only [ofAuthority?_of_web hweb, takeWhile_append_cons hstops, dropWhile_append_cons hstops]
    at h ⊢
  have hhead (c : Char) : (front.dropWhile inAuthority).head? = some c → inAuthority c = false :=
    eq_false_of_head?_dropWhile
  generalize front.dropWhile inAuthority = inner at h hhead ⊢
  obtain ⟨⟨host,port⟩,hmachine,h⟩ := Option.map_eq_some_iff.mp h
  subst h
  -- Nothing in front of the final slash ends the path.
  have hkept : ∀ c ∈ inner ++ ['/'], (!endsPath c) = true :=
    forall_of_tailOf (Prod.ext hquery hfragment)
  have hslashes : ∀ c ∈ inner.head?, isSlash true c = true := by
    intro c hc
    have hends := hkept c (List.mem_append_left _ (List.mem_of_mem_head? hc))
    simpa [inAuthority, hends] using hhead c hc
  obtain ⟨names,hnames,hpath⟩ := exists_pathOf_eq hslashes
  refine ⟨names,hnames,?_,fun cs => ?_⟩
  · rw [Text.takeWhile_append_cons_of_forall hkept, hpath]
    simp [resolve, isDoubleDot, isSingleDot]
  · simp only [hmachine, Option.map_some, Text.takeWhile_append_cons_of_forall hkept,
      Text.dropWhile_append_cons_of_forall hkept, hpath]
    rfl

lemma exists_authority {b : String} {base : Url} (h : ofText? (b ++ "/") = some base)
    (hweb : IsWeb base.scheme) :
    ∃ front, ∀ cs, ofText? (b ++ "/" ++ String.ofList cs) =
      ofAuthority? base.scheme (front ++ '/' :: tidy cs) := by
  have htext (cs : List Char) : (b ++ "/" ++ String.ofList cs).toList = b.toList ++ '/' :: cs := by
    simp
  have hempty : b ++ "/" = b ++ "/" ++ String.ofList [] := by simp
  obtain ⟨rest,hscheme⟩ := scheme_of_ofText? h
  rw [hempty, htext, clean_append_slash] at hscheme
  obtain ⟨inner,rfl,hschemes⟩ := scheme?_append_slash hscheme
  have haddress (cs : List Char) : ofText? (b ++ "/" ++ String.ofList cs) =
      ofAuthority? base.scheme ((inner ++ '/' :: tidy cs).dropWhile (isSlash true)) := by
    refine ofText?_of_web hweb ?_
    rw [htext, clean_append_slash, hschemes]
  -- With nothing but slashes behind the scheme there would be no machine.
  have hne : inner.dropWhile (isSlash true) ≠ [] := by
    intro hnil
    have hbase := haddress []
    rw [← hempty, h, List.dropWhile_append, hnil, ofAuthority?_of_web hweb] at hbase
    cases hbase
  refine ⟨inner.dropWhile (isSlash true),fun cs => ?_⟩
  rw [haddress, List.dropWhile_append, if_neg (by simpa using hne)]

/-- What a web address with a final slash, without query and fragment, makes of what is put behind
the slash: an address below its own segments. -/
theorem ofText?_below {b : String} {base : Url} (h : ofText? (b ++ "/") = some base)
    (hweb : IsWeb base.scheme) (hquery : base.query = none) (hfragment : base.fragment = none) :
    ∃ names, (∀ name ∈ names, IsSegment name) ∧ base.path = .segments (names ++ [[]]) ∧
      ∀ cs, ofText? (b ++ "/" ++ String.ofList cs) = some (base.under names (tidy cs)) := by
  obtain ⟨front,hfront⟩ := exists_authority h hweb
  have hempty : b ++ "/" ++ String.ofList [] = b ++ "/" := by simp
  have hbase := hfront []
  rw [hempty, h] at hbase
  obtain ⟨names,hnames,hpath,hbelow⟩ := ofAuthority?_below hweb hbase.symm hquery hfragment
  exact ⟨names,hnames,hpath,fun cs => by rw [hfront, hbelow]⟩

end Url
end Checkout
