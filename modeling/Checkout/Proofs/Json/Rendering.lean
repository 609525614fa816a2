import Checkout.Json.Parser
import Checkout.Proofs.Json.Lexing
import Checkout.Proofs.Json.Nodes

/-! A value is read back from its text. From the tokens of a value the tree of the value is built
whatever stands around it, and a reader with enough levels finds the value in this tree. What is
written has to be exact: its numbers are whole. -/
namespace Checkout.Json

mutual

/-- How many arrays and objects lie around the innermost part of a value. -/
def nesting : Json → ℕ
  | .array items => nestingItems items + 1
  | .object members => nestingMembers members + 1
  | _ => 0

/-- The deepest nesting of some items. -/
def nestingItems : List Json → ℕ
  | [] => 0
  | item :: rest => max item.nesting (nestingItems rest)

/-- The deepest nesting of some members. -/
def nestingMembers : List (String × Json) → ℕ
  | [] => 0
  | (_, value) :: rest => max value.nesting (nestingMembers rest)

end

lemma nestingItems_le_iff {items : List Json} {k : ℕ} :
    nestingItems items ≤ k ↔ ∀ item ∈ items, item.nesting ≤ k := by
  induction items with
  | nil => simp [nestingItems]
  | cons item items ih => simp [nestingItems, ih]

lemma nestingMembers_le_iff {members : List (String × Json)} {k : ℕ} :
    nestingMembers members ≤ k ↔ ∀ m ∈ members, m.2.nesting ≤ k := by
  induction members with
  | nil => simp [nestingMembers]
  | cons m members ih => simp [nestingMembers, ih]

namespace Node

/-- A node of a text is read as a value wherever there are enough levels. -/
def Stands (node : Node) (j : Json) : Prop :=
  ∀ ⦃depth : ℕ⦄, j.nesting < depth → node.read depth = .ok j

/-- A member of a text has the name and the value of a member. -/
def StandsFor (member : Key × Node × ℕ) (m : String × Json) : Prop :=
  member.1.name = .ok m.1 ∧ member.2.1.Stands m.2

lemma read_of_stands {items : List (Node × ℕ)} {values : List Json} {depth : ℕ}
    (h : List.Forall₂ (fun item j => item.1.Stands j) items values)
    (hdepth : nestingItems values < depth) :
    List.Forall₂ (ReadsItem depth) items values := by
  induction h with
  | nil => exact .nil
  | cons hitem _ ih =>
    rw [nestingItems, max_lt_iff] at hdepth
    exact .cons (hitem hdepth.1) (ih hdepth.2)

lemma read_of_standsFor {members : List (Key × Node × ℕ)} {values : List (String × Json)} {depth : ℕ}
    (h : List.Forall₂ StandsFor members values) (hdepth : nestingMembers values < depth) :
    List.Forall₂ (ReadsMember depth) members values := by
  induction h with
  | nil => exact .nil
  | cons hmember _ ih =>
    rw [nestingMembers, max_lt_iff] at hdepth
    exact .cons ⟨hmember.1,hmember.2 hdepth.1⟩ (ih hdepth.2)

lemma stands_array {start stop : ℕ} {items : List (Node × ℕ)} {values : List Json}
    (h : List.Forall₂ (fun item j => item.1.Stands j) items values) :
    (array start items (.closed stop)).Stands (.array values) := by
  intro depth hdepth
  rw [nesting] at hdepth
  exact read_eq_ok_iff.mpr (.array (by omega) (read_of_stands h (by omega)))

lemma stands_object {start stop : ℕ} {members : List (Key × Node × ℕ)}
    {values : List (String × Json)} (h : List.Forall₂ StandsFor members values) :
    (object start members (.closed stop)).Stands (.object values) := by
  intro depth hdepth
  rw [nesting] at hdepth
  exact read_eq_ok_iff.mpr (.object (by omega) (read_of_standsFor h (by omega)))

end Node

namespace Tree

/-- Goes on with a text after a step. -/
def Step.resume (size : ℕ) (rest : List Placed) : Step → Document
  | .stop document => document
  | .go stack want => build size stack want rest

lemma build_cons (size : ℕ) (stack : List Frame) (want : Want) (p : Placed) (rest : List Placed) :
    build size stack want (p :: rest) = (step size stack want p rest).resume size rest := by
  rw [build]
  cases step size stack want p rest <;> rfl

/-- Where a value may stand. -/
inductive Awaits : Want → Prop
  | value : Awaits .value
  | firstItem : Awaits .firstItem
  | nextItem : Awaits .nextItem

/-- Where a value may stand, its first token decides how it is built. -/
lemma exists_build_eq_value {want : Want} (hwant : Awaits want) {t : Token} (ht : t ≠ .closeArray)
    {ts : List Token} {placed : List Placed} (hplaced : placed.map Placed.token = t :: ts) (size : ℕ)
    (stack : List Frame) (rest : List Placed) :
    ∃ p inner trailing, p.token = t ∧ inner.map Placed.token = ts ∧
      build size stack want (placed ++ rest) =
        (value size stack trailing p (inner ++ rest)).resume size (inner ++ rest) := by
  obtain ⟨p,inner,rfl,rfl,hinner⟩ := List.map_eq_cons_iff.mp hplaced
  rw [List.cons_append, build_cons]
  cases hwant with
  | value => exact ⟨p,inner,false,rfl,hinner,rfl⟩
  | nextItem => exact ⟨p,inner,true,rfl,hinner,rfl⟩
  | firstItem =>
    refine ⟨p,inner,false,rfl,hinner,congrArg (Step.resume size (inner ++ rest)) ?_⟩
    unfold step
    split <;> simp_all

section Build
variable {size start : ℕ} {stack : List Frame} {placed : List Placed} {first : Bool}

/-- A scalar is built from its one token. -/
lemma exists_build_scalar {want : Want} (hwant : Awaits want) {t : Token} (ht : t ≠ .closeArray)
    (hplaced : placed.map Placed.token = [t]) (node : Placed → Node) {j : Json}
    (hnode : ∀ p, (node p).Stands j) (rest : List Placed)
    (hvalue : ∀ trailing p, p.token = t →
      value size stack trailing p rest = complete size (node p) rest stack) :
    ∃ node : Node, node.Stands j ∧
      build size stack want (placed ++ rest) = (complete size node rest stack).resume size rest := by
  obtain ⟨p,inner,trailing,hp,hinner,hbuild⟩ := exists_build_eq_value hwant ht hplaced size stack rest
  obtain rfl := List.map_eq_nil_iff.mp hinner
  exact ⟨node p,hnode p,hbuild.trans (congrArg (Step.resume size rest) (hvalue trailing p hp))⟩

lemma build_closeArray {items : List (Node × ℕ)} {q : Placed} (hq : q.token = .closeArray)
    (rest : List Placed) :
    build size (.array start items :: stack) (if first then .firstItem else .more) (q :: rest) =
      (complete size (.array start items.reverse (.closed q.stop)) rest stack).resume size rest := by
  rw [build_cons]
  cases first with
  | true =>
    simp only [if_true, step, hq]
    rfl
  | false => simp [step, hq]

lemma build_closeObject {members : List (Key × Node × ℕ)} {q : Placed} (hq : q.token = .closeObject)
    (rest : List Placed) :
    build size (.object start members none :: stack) (if first then .firstKey else .more) (q :: rest) =
      (complete size (.object start members.reverse (.closed q.stop)) rest stack).resume size rest := by
  rw [build_cons]
  cases first with
  | true =>
    simp only [if_true, step, hq]
    rfl
  | false => simp [step, hq]

/-- A comma leads to an item unless it is the first one. -/
lemma exists_build_item {items : List (Node × ℕ)} {ts : List Token}
    (hplaced : placed.map Placed.token = (if first then [] else [.comma]) ++ ts)
    (rest : List Placed) :
    ∃ want inner, Awaits want ∧ inner.map Placed.token = ts ∧
      build size (.array start items :: stack) (if first then .firstItem else .more) (placed ++ rest) =
        build size (.array start items :: stack) want (inner ++ rest) := by
  cases first with
  | true => exact ⟨_,placed,.firstItem,hplaced,rfl⟩
  | false =>
    obtain ⟨comma,inner,rfl,hcomma,hinner⟩ := List.map_eq_cons_iff.mp hplaced
    refine ⟨_,inner,.nextItem,hinner,?_⟩
    rw [List.cons_append, build_cons]
    simp [step, hcomma, Step.resume]

/-- A name and a colon lead to the value of a member. -/
lemma exists_build_member {members : List (Key × Node × ℕ)} {name : String} {ts : List Token}
    (hplaced : placed.map Placed.token =
      (if first then [] else [.comma]) ++ .string (.ok name) :: .colon :: ts) (rest : List Placed) :
    ∃ key inner, key.name = .ok name ∧ inner.map Placed.token = ts ∧
      build size (.object start members none :: stack) (if first then .firstKey else .more)
        (placed ++ rest) =
        build size (.object start members (some key) :: stack) .value (inner ++ rest) := by
  cases first with
  | true =>
    obtain ⟨p,inner,rfl,hp,hinner⟩ := List.map_eq_cons_iff.mp hplaced
    obtain ⟨colon,inner,rfl,hcolon,hinner⟩ := List.map_eq_cons_iff.mp hinner
    refine ⟨⟨.ok name,p.stop,colon.start⟩,inner,rfl,hinner,?_⟩
    simp [build_cons, step, key, hp, hcolon, Step.resume, Frame.name, Frame.settle]
  | false =>
    obtain ⟨comma,inner,rfl,hcomma,hinner⟩ := List.map_eq_cons_iff.mp hplaced
    obtain ⟨p,inner,rfl,hp,hinner⟩ := List.map_eq_cons_iff.mp hinner
    obtain ⟨colon,inner,rfl,hcolon,hinner⟩ := List.map_eq_cons_iff.mp hinner
    refine ⟨⟨.ok name,p.stop,colon.start⟩,inner,rfl,hinner,?_⟩
    simp [build_cons, step, key, hcomma, hp, hcolon, Step.resume, Frame.name, Frame.settle]

end Build

mutual

/-- From the tokens of a value a node is built that stands for it, whatever comes next. -/
theorem build_tokens (size : ℕ) (j : Json) (stack : List Frame) {want : Want} (hwant : Awaits want)
    {placed : List Placed} (hplaced : placed.map Placed.token = j.tokens) (rest : List Placed) :
    ∃ node : Node, node.Stands j ∧
      build size stack want (placed ++ rest) = (complete size node rest stack).resume size rest := by
  match j with
  | .null =>
    refine exists_build_scalar hwant (by simp) hplaced (fun p => .null p.start p.stop)
      (fun p _ _ => rfl) rest fun trailing p hp => ?_
    rw [value, hp]
  | .bool b =>
    refine exists_build_scalar hwant (by simp) hplaced (fun p => .bool b p.start p.stop)
      (fun p _ _ => rfl) rest fun trailing p hp => ?_
    rw [value, hp]
  | .number n =>
    refine exists_build_scalar hwant (by simp) hplaced (fun p => .number (.ok n) p.start p.stop)
      (fun p _ _ => rfl) rest fun trailing p hp => ?_
    rw [value, hp]
  | .string s =>
    refine exists_build_scalar hwant (by simp) hplaced (fun p => .string (.ok s) p.start p.stop)
      (fun p _ _ => rfl) rest fun trailing p hp => ?_
    rw [value, hp]
  | .array items =>
    rw [tokens] at hplaced
    obtain ⟨p,inner,trailing,hp,hinner,hbuild⟩ :=
      exists_build_eq_value hwant (by simp) hplaced size stack rest
    obtain ⟨inner,last,rfl,hitems,hlast⟩ := List.map_eq_append_iff.mp hinner
    obtain ⟨q,rfl,hq⟩ := List.map_eq_singleton_iff.mp hlast
    obtain ⟨nodes,hnodes,hrest⟩ := build_itemTokens size p.start [] stack true items hitems hq rest
    refine ⟨.array p.start nodes (.closed q.stop),Node.stands_array hnodes,hbuild.trans ?_⟩
    rw [value, hp, List.append_assoc]
    exact hrest
  | .object members =>
    rw [tokens] at hplaced
    obtain ⟨p,inner,trailing,hp,hinner,hbuild⟩ :=
      exists_build_eq_value hwant (by simp) hplaced size stack rest
    obtain ⟨inner,last,rfl,hmembers,hlast⟩ := List.map_eq_append_iff.mp hinner
    obtain ⟨q,rfl,hq⟩ := List.map_eq_singleton_iff.mp hlast
    obtain ⟨nodes,hnodes,hrest⟩ :=
      build_memberTokens size p.start [] stack true members hmembers hq rest
    refine ⟨.object p.start nodes (.closed q.stop),Node.stands_object hnodes,hbuild.trans ?_⟩
    rw [value, hp, List.append_assoc]
    exact hrest

theorem build_itemTokens (size start : ℕ) (acc : List (Node × ℕ)) (stack : List Frame) (first : Bool)
    (items : List Json) {placed : List Placed}
    (hplaced : placed.map Placed.token = itemTokens first items) {q : Placed}
    (hq : q.token = .closeArray) (rest : List Placed) :
    ∃ nodes, List.Forall₂ (fun item j => item.1.Stands j) nodes items ∧
      build size (.array start acc :: stack) (if first then .firstItem else .more)
        (placed ++ q :: rest) =
        (complete size (.array start (acc.reverse ++ nodes) (.closed q.stop)) rest stack).resume size
          rest := by
  match items with
  | [] =>
    obtain rfl := List.map_eq_nil_iff.mp hplaced
    refine ⟨[],.nil,?_⟩
    rw [List.append_nil]
    exact build_closeArray hq rest
  | item :: items =>
    rw [itemTokens] at hplaced
    obtain ⟨want,inner,hwant,hinner,hbuild⟩ := exists_build_item hplaced (q :: rest)
    obtain ⟨here,others,rfl,hhere,hothers⟩ := List.map_eq_append_iff.mp hinner
    obtain ⟨node,hnode,hitem⟩ :=
      build_tokens size item (.array start acc :: stack) hwant hhere (others ++ q :: rest)
    let settled := (Frame.array start acc).settle size (others ++ q :: rest)
    obtain ⟨nodes,hnodes,hrest⟩ :=
      build_itemTokens size start ((node,settled) :: acc) stack false items hothers hq rest
    refine ⟨(node,settled) :: nodes,.cons hnode hnodes,?_⟩
    rw [hbuild, List.append_assoc, hitem]
    rw [List.reverse_cons, List.append_assoc] at hrest
    exact hrest

theorem build_memberTokens (size start : ℕ) (acc : List (Key × Node × ℕ)) (stack : List Frame)
    (first : Bool) (members : List (String × Json)) {placed : List Placed}
    (hplaced : placed.map Placed.token = memberTokens first members) {q : Placed}
    (hq : q.token = .closeObject) (rest : List Placed) :
    ∃ nodes, List.Forall₂ Node.StandsFor nodes members ∧
      build size (.object start acc none :: stack) (if first then .firstKey else .more)
        (placed ++ q :: rest) =
        (complete size (.object start (acc.reverse ++ nodes) (.closed q.stop)) rest stack).resume size
          rest := by
  match members with
  | [] =>
    obtain rfl := List.map_eq_nil_iff.mp hplaced
    refine ⟨[],.nil,?_⟩
    rw [List.append_nil]
    exact build_closeObject hq rest
  | (name,value) :: members =>
    rw [memberTokens] at hplaced
    obtain ⟨key,inner,hkey,hinner,hbuild⟩ := exists_build_member hplaced (q :: rest)
    obtain ⟨here,others,rfl,hhere,hothers⟩ := List.map_eq_append_iff.mp hinner
    obtain ⟨node,hnode,hvalue⟩ := build_tokens size value (.object start acc (some key) :: stack)
      .value hhere (others ++ q :: rest)
    let settled := (Frame.object start acc (some key)).settle size (others ++ q :: rest)
    obtain ⟨nodes,hnodes,hrest⟩ :=
      build_memberTokens size start ((key,node,settled) :: acc) stack false members hothers hq rest
    refine ⟨(key,node,settled) :: nodes,.cons ⟨hkey,hnode⟩ hnodes,?_⟩
    rw [hbuild, List.append_assoc, hvalue]
    rw [List.reverse_cons, List.append_assoc] at hrest
    exact hrest

end

end Tree

/-- The text of an exact value is one that stands for it, with nothing behind it. -/
theorem exists_ofSymbols_render {j : Json} (h : j.IsExact) :
    ∃ node : Node, node.Stands j ∧ Document.ofSymbols (Symbol.ofText j.render) = ⟨node,none⟩ := by
  obtain ⟨node,hnode,hbuild⟩ := Tree.build_tokens
    (Symbol.totalWidth (Symbol.ofText j.render)) j [] .value (map_token_list h) []
  rw [List.append_nil] at hbuild
  exact ⟨node,hnode,hbuild⟩

/-- An exact value that is nested at most `k` deep. -/
structure Writable (k : ℕ) (j : Json) : Prop where
  exact : j.IsExact
  shallow : j.nesting ≤ k

lemma writable_string (k : ℕ) (s : String) : (string s).Writable k :=
  ⟨by simp [IsExact, tokens, Token.isExact],by simp [nesting]⟩

lemma writable_whole (k : ℕ) (n : WholeNumber) : (whole n).Writable k :=
  ⟨by simp [IsExact, whole, tokens, Token.isExact],by simp [whole, nesting]⟩

lemma writable_object {k : ℕ} {members : List (String × Json)} (h : ∀ m ∈ members, m.2.Writable k) :
    (object members).Writable (k + 1) := by
  refine ⟨isExact_object.mpr fun m hm => (h m hm).exact,?_⟩
  rw [nesting, Nat.add_le_add_iff_right]
  exact nestingMembers_le_iff.mpr fun m hm => (h m hm).shallow

/-- What is exact and not nested too deeply is read back from its text. -/
theorem Writable.parse_render {k : ℕ} {j : Json} (h : j.Writable k) (hk : k < levels) :
    parse j.render = .ok j.normal := by
  obtain ⟨node,hnode,hdocument⟩ := exists_ofSymbols_render h.exact
  have hwritten : parseWritten (Symbol.ofText j.render) = .ok j := by
    rw [parseWritten, readWith_eq_ok_iff, hdocument]
    exact ⟨hnode (h.shallow.trans_lt hk),rfl⟩
  rw [parse, parseSymbols, hwritten]
  rfl

/-- An object of texts under different names is read back with its names in their order. -/
theorem parse_render_texts_of_perm {texts sorted : List (String × String)} (hperm : texts.Perm sorted)
    (h : sorted.Pairwise fun t t' => t.1 < t'.1) :
    parse (object (texts.map fun t => (t.1,.string t.2))).render =
      .ok (object (sorted.map fun t => (t.1,.string t.2))) := by
  have hwritable : (object (texts.map fun t => (t.1,.string t.2))).Writable 1 := by
    refine writable_object fun m hm => ?_
    obtain ⟨t,-,rfl⟩ := List.mem_map.mp hm
    exact writable_string 0 t.2
  have hascending : Ascending (sorted.map fun t => (t.1,.string t.2)) := List.pairwise_map.mpr h
  have hparts : (texts.map fun t => (t.1,string t.2)).map (fun m => (m.1, m.2.normal)) =
      texts.map fun t => (t.1,string t.2) := by
    rw [List.map_map]
    rfl
  rw [hwritable.parse_render (by decide), normal_object, hparts,
    arrange_eq_of_perm (hperm.map _) hascending]

/-- An object of texts whose names ascend is read back as it is. -/
theorem parse_render_texts (texts : List (String × String))
    (h : texts.Pairwise fun t t' => t.1 < t'.1) :
    parse (object (texts.map fun t => (t.1,.string t.2))).render =
      .ok (object (texts.map fun t => (t.1,.string t.2))) :=
  parse_render_texts_of_perm (.refl texts) h

end Checkout.Json
