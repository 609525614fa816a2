import Checkout.Proofs.Url.Below

/-! Texts that name one place below a base address. A plain text becomes one segment that is decoded
to it again. No other text does: what parts or ends the path, is left out, moves in the path or is
already encoded makes the segment, if there is one, stand for something else. -/
namespace Checkout.Url

open Checkout.Text (splitWhere)
open Checkout.Text.Utf8 (charBytes)

/-- A text that is a segment of a path as it stands. -/
structure IsPlain (cs : List Char) : Prop where
  whole : ∀ c ∈ cs, isSlash true c = false
  inside : ∀ c ∈ cs, endsPath c = false
  kept : ∀ c ∈ cs, isDropped c = false
  stays : isSingleDot cs = false
  level : isDoubleDot cs = false
  literal : ¬ HasEscape cs

lemma IsPlain.slash_not_mem {cs : List Char} (h : IsPlain cs) : '/' ∉ cs := by
  intro hmem
  have := h.whole '/' hmem
  simp [isSlash] at this

lemma isPlain_of_decodeBytes {cs : List Char}
    (hchars : cs.all (fun c => !isSlash true c && !endsPath c && !isDropped c) = true)
    (hdots : isSingleDot cs = false ∧ isDoubleDot cs = false)
    (hbytes : decodeBytes cs = cs.flatMap charBytes) : IsPlain cs := by
  simp only [List.all_eq_true, Bool.and_eq_true, Bool.not_eq_true'] at hchars
  exact ⟨fun c hc => (hchars c hc).1.1,fun c hc => (hchars c hc).1.2,fun c hc => (hchars c hc).2,
    hdots.1,hdots.2,decodeBytes_eq_iff.mp hbytes⟩

lemma isPlain_nil : IsPlain [] := isPlain_of_decodeBytes rfl (by decide) rfl

/-- A plain text is what its segment is decoded to. -/
lemma IsPlain.decodeBytes_encode {cs : List Char} (h : IsPlain cs) :
    decodeBytes (encode inPath cs) = cs.flatMap charBytes := by
  rw [Url.decodeBytes_encode, decodeBytes_eq_iff]
  exact h.literal

lemma climb_of_isPlain {piece : List Char} (h : IsPlain piece) (done : List (List Char)) :
    climb done piece = encode inPath piece :: done := by
  simp [climb, h.stays, h.level]

/-- Plain pieces become segments behind those in front. -/
lemma resolve_of_forall {pieces : List (List Char)} (h : ∀ piece ∈ pieces, IsPlain piece)
    (done : List (List Char)) :
    resolve done pieces = done.reverse ++ pieces.map (encode inPath) := by
  induction pieces generalizing done with
  | nil => simp [resolve]
  | cons piece pieces ih =>
    have hpiece := h piece (by simp)
    cases pieces with
    | nil => simp [resolve, hpiece.stays, hpiece.level]
    | cons next rest =>
      rw [resolve_cons (by simp), climb_of_isPlain hpiece, ih fun p hp => h p (by simp [hp])]
      simp

/-- A segment behind those in front is empty or has been a piece. -/
lemma eq_nil_or_exists_of_resolve_eq {done pieces last : List (List Char)} {segment : List Char}
    (h : resolve done pieces = done.reverse ++ segment :: last) :
    segment = [] ∨ ∃ piece ∈ pieces, segment = encode inPath piece := by
  obtain ⟨k,pushed,he,hpushed⟩ := exists_resolve_eq done pieces
  rw [he] at h
  rcases List.append_eq_append_iff.mp h with ⟨front,-,hlast⟩ | ⟨front,hdone,hlast⟩
  · exact hpushed segment (by simp [hlast])
  · -- Nothing can be left of the segments in front but these.
    have hlength := congrArg List.length hdone
    simp only [List.length_reverse, List.length_drop, List.length_append] at hlength
    obtain rfl : front = [] := List.eq_nil_of_length_eq_zero (by omega)
    have hmem : segment ∈ [] ++ pushed := hlast ▸ List.mem_cons_self
    exact hpushed segment hmem

/-- A piece that moves in the path leaves no segment of its own. -/
lemma eq_nil_of_resolve_eq {done last : List (List Char)} {piece segment : List Char}
    (hlast : ∀ name ∈ last, IsPlain name) (hdot : isDoubleDot piece = true ∨ isSingleDot piece = true)
    (h : resolve done (piece :: last) = done.reverse ++ segment :: last) : segment = [] := by
  cases last with
  | nil =>
    have hend : (resolve done [piece]).getLast? = some [] := by
      unfold resolve
      split_ifs with hdouble hsingle
      · simp
      · simp
      · simp [hdouble, hsingle] at hdot
    rw [h, List.getLast?_append_cons] at hend
    simpa using hend
  | cons next rest =>
    rw [resolve_cons (by simp), resolve_of_forall hlast] at h
    have hclimb : (climb done piece).length ≤ done.length := by
      unfold climb
      split_ifs with hdouble hsingle
      · simp
      · simp
      · simp [hdouble, hsingle] at hdot
    have hlength := congrArg List.length h
    simp only [List.length_append, List.length_reverse, List.length_map, List.length_cons] at hlength
    omega

/-- A piece that becomes the segment of its own bytes does not move in the path. -/
lemma isDot_eq_false_of_resolve_eq {done last : List (List Char)} {piece : List Char}
    (hlast : ∀ name ∈ last, IsPlain name) (hbytes : decodeBytes piece = piece.flatMap charBytes)
    (h : resolve done (piece :: last) = done.reverse ++ encode inPath piece :: last) :
    isDoubleDot piece = false ∧ isSingleDot piece = false := by
  have hdots : ¬ (isDoubleDot piece = true ∨ isSingleDot piece = true) := by
    intro hdot
    have hdecode := decodeBytes_encode piece
    rw [eq_nil_of_resolve_eq hlast hdot h, hbytes] at hdecode
    obtain rfl : piece = [] := Text.Utf8.flatMap_charBytes_injective hdecode.symm
    revert hdot
    decide
  simpa only [not_or, Bool.not_eq_true] using hdots

/-- The text `cs`, as `keep` leaves it, names the segment behind `names` and in front of `last`. -/
def Hits (base : Url) (names last : List (List Char)) (keep : List Char → List Char)
    (cs : List Char) : Prop :=
  ∃ segment, IsSegment segment ∧ decodeBytes segment = cs.flatMap charBytes ∧
    (base.under names (keep cs ++ last.flatMap ('/' :: ·))).target =
      String.ofList ((names ++ segment :: last).flatMap ('/' :: ·))

section Hits
variable {base : Url} {names last : List (List Char)} {keep : List Char → List Char} {cs : List Char}

lemma IsPlain.isSegment {name : List Char} (h : IsPlain name) : IsSegment name := by
  refine ⟨h.slash_not_mem,fun hmem => ?_,fun hmem => ?_⟩
  · cases h.inside '?' hmem
  · cases h.inside '#' hmem

lemma endsPath_eq_false_of_mem {c : Char} (hlast : ∀ name ∈ last, IsPlain name)
    (h : c ∈ last.flatMap ('/' :: ·)) : endsPath c = false := by
  obtain ⟨name,hname,hc⟩ := List.mem_flatMap.mp h
  rcases List.mem_cons.mp hc with rfl | hc
  · rfl
  · exact (hlast name hname).inside c hc

lemma splitWhere_names (hlast : ∀ name ∈ last, IsPlain name) (cs : List Char) :
    splitWhere (isSlash true) (cs ++ last.flatMap ('/' :: ·)) =
      splitWhere (isSlash true) cs ++ last :=
  Text.splitWhere_append_flatMap_cons rfl cs fun name hname => (hlast name hname).whole

lemma forall_not_endsPath (hlast : ∀ name ∈ last, IsPlain name) (h : ∀ c ∈ cs, endsPath c = false) :
    ∀ c ∈ cs ++ last.flatMap ('/' :: ·), (!endsPath c) = true := by
  intro c hc
  rcases List.mem_append.mp hc with hc | hc
  · simp [h c hc]
  · simp [endsPath_eq_false_of_mem hlast hc]

/-- A piece of the path is one of those behind the text, or a part of the text. -/
lemma mem_or_sublist_of_mem_pieces (hlast : ∀ name ∈ last, IsPlain name) {piece : List Char}
    (h : piece ∈ splitWhere (isSlash true)
      ((cs ++ last.flatMap ('/' :: ·)).takeWhile (!endsPath ·))) :
    piece ∈ last ∨ piece.Sublist cs ∧ (∀ c ∈ piece, isSlash true c = false) ∧
      ∀ c ∈ piece, endsPath c = false := by
  by_cases hstop : ∀ c ∈ cs, endsPath c = false
  · have hall := forall_not_endsPath hlast hstop
    rw [List.takeWhile_eq_self_iff.mpr hall, splitWhere_names hlast, List.mem_append] at h
    refine h.symm.imp_right fun h => ?_
    obtain ⟨hsub,hfree⟩ := Text.sublist_of_mem_splitWhere h
    exact ⟨hsub,hfree,fun c hc => hstop c (hsub.mem hc)⟩
  · have hcut : (cs ++ last.flatMap ('/' :: ·)).takeWhile (!endsPath ·) =
        cs.takeWhile (!endsPath ·) := by
      rw [List.takeWhile_append, if_neg]
      intro hlength
      have hself := (List.takeWhile_prefix (!endsPath ·)).eq_of_length hlength
      exact hstop fun c hc => by simpa using List.takeWhile_eq_self_iff.mp hself c hc
    rw [hcut] at h
    obtain ⟨hsub,hfree⟩ := Text.sublist_of_mem_splitWhere h
    refine .inr ⟨hsub.trans (List.takeWhile_sublist _),hfree,fun c hc => ?_⟩
    simpa using List.mem_takeWhile_imp (hsub.mem hc)

/-- A text without slashes that does not end the path is one piece. -/
lemma pieces_eq (hlast : ∀ name ∈ last, IsPlain name) (hwhole : ∀ c ∈ cs, isSlash true c = false)
    (hinside : ∀ c ∈ cs, endsPath c = false) :
    splitWhere (isSlash true) ((cs ++ last.flatMap ('/' :: ·)).takeWhile (!endsPath ·)) =
      cs :: last := by
  rw [List.takeWhile_eq_self_iff.mpr (forall_not_endsPath hlast hinside), splitWhere_names hlast,
    Text.splitWhere_of_forall hwhole]
  rfl

/-- A plain text becomes a segment behind those of the base, in front of the plain ones behind it. -/
lemma IsPlain.under_eq (h : IsPlain cs)
    (hlast : ∀ name ∈ last, IsPlain name ∧ encode inPath name = name) :
    base.under names (cs ++ last.flatMap ('/' :: ·)) = { base with
      path := .segments (names ++ encode inPath cs :: last)
      query := none
      fragment := none } := by
  have hplain : ∀ name ∈ last, IsPlain name := fun name hname => (hlast name hname).1
  have hmap : last.map (encode inPath) = last :=
    (List.map_congr_left fun name hname => (hlast name hname).2).trans (List.map_id last)
  have hresolve : resolve names.reverse (cs :: last) = names ++ encode inPath cs :: last := by
    rw [resolve_of_forall (by simpa using ⟨h,hplain⟩), List.reverse_reverse, List.map_cons, hmap]
  have hrest := List.dropWhile_eq_nil_iff.mpr (forall_not_endsPath hplain h.inside)
  simp only [under, pieces_eq hplain h.whole h.inside, hresolve, hrest]
  rfl

/-- A plain text that is kept names its segment. -/
lemma IsPlain.hits (h : IsPlain cs) (hself : keep cs = cs)
    (hlast : ∀ name ∈ last, IsPlain name ∧ encode inPath name = name) :
    Hits base names last keep cs := by
  refine ⟨encode inPath cs,isSegment_encode h.slash_not_mem,h.decodeBytes_encode,?_⟩
  rw [hself, h.under_eq hlast]
  simp [target, pathChars, marked]

lemma query_eq_none_of_target {url : Url} {names : List (List Char)}
    (hnames : ∀ name ∈ names, IsSegment name)
    (h : url.target = String.ofList (names.flatMap ('/' :: ·))) : url.query = none := by
  by_contra hquery
  obtain ⟨query,hquery⟩ := Option.ne_none_iff_exists'.mp hquery
  have hmem : '?' ∈ names.flatMap ('/' :: ·) := by
    rw [← String.ofList_injective h, hquery]
    simp [marked]
  obtain ⟨name,hname,hmem⟩ := List.mem_flatMap.mp hmem
  exact (hnames name hname).2.1 (by simpa using hmem)

/-- A plain name in front of a slash is one more segment of the base. -/
lemma under_append_slash {name : List Char} (hname : IsPlain name) (hself : encode inPath name = name)
    (cs : List Char) : base.under names (name ++ '/' :: cs) = base.under (names ++ [name]) cs := by
  have hall : ∀ c ∈ name ++ ['/'], (!endsPath c) = true := by
    intro c hc
    rcases List.mem_append.mp hc with hc | hc
    · simp [hname.inside c hc]
    · rw [List.mem_singleton.mp hc]
      rfl
  have hslash : isSlash true '/' = true := rfl
  have hpieces : resolve names.reverse
      (splitWhere (isSlash true) (name ++ '/' :: cs.takeWhile (!endsPath ·))) =
      resolve (names ++ [name]).reverse (splitWhere (isSlash true) (cs.takeWhile (!endsPath ·))) := by
    rw [Text.splitWhere_append_cons name hslash, Text.splitWhere_of_forall hname.whole,
      List.singleton_append, resolve_cons (Text.splitWhere_ne_nil _ _), climb_of_isPlain hname, hself,
      List.reverse_append]
    rfl
  simp only [under, Text.takeWhile_append_cons_of_forall hall,
    Text.dropWhile_append_cons_of_forall hall, hpieces]

/-- The segments of an address below others are those that its target spells. -/
lemma resolve_eq_of_target (hnames : ∀ name ∈ names, IsSegment name) {names' : List (List Char)}
    (hnames' : ∀ name ∈ names', IsSegment name)
    (h : (base.under names cs).target = String.ofList (names'.flatMap ('/' :: ·))) :
    resolve names.reverse (splitWhere (isSlash true) (cs.takeWhile (!endsPath ·))) = names' := by
  have hquery := query_eq_none_of_target hnames' h
  have hpieces : ∀ piece ∈ splitWhere (isSlash true) (cs.takeWhile (!endsPath ·)), '/' ∉ piece := by
    intro piece hpiece hmem
    have hfree := (Text.sublist_of_mem_splitWhere hpiece).2 '/' hmem
    simp [isSlash] at hfree
  have hdone : ∀ name ∈ names.reverse, IsSegment name :=
    fun name hname => hnames name (List.mem_reverse.mp hname)
  refine flatMap_slash_inj (fun _ => isSegment_of_mem_resolve hdone hpieces) hnames' ?_
  have htarget := String.ofList_injective h
  rw [hquery] at htarget
  simpa [pathChars, under, marked] using htarget

/-- Exactly the plain texts that are kept name the segment which is decoded to them. -/
theorem hits_iff (hnames : ∀ name ∈ names, IsSegment name)
    (hlast : ∀ name ∈ last, IsPlain name ∧ encode inPath name = name ∧ keep name = name)
    (hkeep : ∀ cs, (keep cs).Sublist cs ∧ ∀ c ∈ keep cs, isDropped c = false) :
    Hits base names last keep cs ↔ IsPlain cs ∧ keep cs = cs := by
  have hplain : ∀ name ∈ last, IsPlain name := fun name hname => (hlast name hname).1
  constructor
  swap
  · rintro ⟨h,hself⟩
    exact h.hits hself fun name hname => ⟨(hlast name hname).1,(hlast name hname).2.1⟩
  rintro ⟨segment,hsegment,hdecode,htarget⟩
  have hall : ∀ name ∈ names ++ segment :: last, IsSegment name := by
    intro name hname
    rcases List.mem_append.mp hname with hname | hname
    · exact hnames name hname
    · rcases List.mem_cons.mp hname with rfl | hname
      · exact hsegment
      · exact (hplain name hname).isSegment
  have hresolve := resolve_eq_of_target hnames hall htarget
  rw [← names.reverse_reverse, List.reverse_reverse names.reverse] at hresolve
  rcases eq_nil_or_exists_of_resolve_eq hresolve with rfl | ⟨piece,hpiece,rfl⟩
  · -- An empty segment stands for the empty text only.
    obtain rfl : cs = [] := Text.Utf8.flatMap_charBytes_injective hdecode.symm
    exact ⟨isPlain_nil,List.sublist_nil.mp (hkeep []).1⟩
  · rw [decodeBytes_encode] at hdecode
    rcases mem_or_sublist_of_mem_pieces hplain hpiece with hmem | ⟨hsub,hwhole,hinside⟩
    · have hpiece := decodeBytes_eq_iff.mpr (hplain piece hmem).literal
      obtain rfl := Text.Utf8.flatMap_charBytes_injective (hpiece.symm.trans hdecode)
      exact ⟨hplain piece hmem,(hlast piece hmem).2.2⟩
    · -- A part of the text with all its bytes is the whole text.
      have hbytes := (length_decodeBytes piece).1
      rw [hdecode] at hbytes
      obtain rfl := Text.Utf8.eq_of_sublist (hsub.trans (hkeep cs).1) hbytes
      have hself : keep piece = piece := (hkeep piece).1.antisymm hsub
      have hliteral := decodeBytes_eq_iff.mp hdecode
      rw [hself, pieces_eq hplain hwhole hinside] at hresolve
      obtain ⟨hdouble,hsingle⟩ := isDot_eq_false_of_resolve_eq hplain hdecode hresolve
      have hkept : ∀ c ∈ piece, isDropped c = false := hself ▸ (hkeep piece).2
      exact ⟨⟨hwhole,hinside,hkept,hsingle,hdouble,hliteral⟩,hself⟩

end Hits

end Checkout.Url
