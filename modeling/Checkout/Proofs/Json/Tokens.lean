import Checkout.Json.Printer
import Checkout.Json.Token
import Mathlib.Data.List.Chain
import Mathlib.Tactic

/-! The tokens that a value is written with. Their texts, one behind the other, are the text of the
value, and no number is next to another one. -/
namespace Checkout.Json

namespace Token

/-- The text of a token. -/
def chars : Token → List Char
  | openArray => ['[']
  | closeArray => [']']
  | openObject => ['\x7b']
  | closeObject => ['\x7d']
  | colon => [':']
  | comma => [',']
  | null => ['n','u','l','l']
  | bool true => ['t','r','u','e']
  | bool false => ['f','a','l','s','e']
  | number (.ok n) => n.toText.toList
  | string (.ok s) => '"' :: s.toList.flatMap escape ++ ['"']
  | _ => []

/-- Whether a token is what its text says: it is whole, and a number is a whole number. -/
def isExact : Token → Bool
  | number (.ok (.whole _)) => true
  | string (.ok _) => true
  | number _ => false
  | string _ => false
  | broken .. => false
  | _ => true

/-- Whether a token is a number. -/
def isNumber : Token → Bool
  | number _ => true
  | _ => false

/-- Of two tokens, at most one is a number. -/
def Apart (t u : Token) : Prop := t.isNumber = true → u.isNumber = false

/-- Tokens behind which no number stands next to one. -/
def Spaced (ts : List Token) : Prop :=
  ts.IsChain Apart ∧ ∀ t ∈ ts.head?, t.isNumber = false

end Token

mutual

/-- The tokens that a value is written with. -/
def tokens : Json → List Token
  | .null => [.null]
  | .bool b => [.bool b]
  | .number n => [.number (.ok n)]
  | .string s => [.string (.ok s)]
  | .array items => .openArray :: (itemTokens true items ++ [.closeArray])
  | .object members => .openObject :: (memberTokens true members ++ [.closeObject])

/-- The tokens of items, the first without a comma in front. -/
def itemTokens (first : Bool) : List Json → List Token
  | [] => []
  | item :: rest => (if first then [] else [.comma]) ++ (item.tokens ++ itemTokens false rest)

/-- The tokens of members, the first without a comma in front. -/
def memberTokens (first : Bool) : List (String × Json) → List Token
  | [] => []
  | (name, value) :: rest =>
    (if first then [] else [.comma]) ++
      .string (.ok name) :: .colon :: (value.tokens ++ memberTokens false rest)

end

mutual

/-- The text of a value is that of its tokens. -/
theorem toList_renderTo (out : String) (j : Json) :
    (renderTo out j).toList = out.toList ++ j.tokens.flatMap Token.chars := by
  match j with
  | .null => simp [renderTo, tokens, Token.chars]
  | .bool true => simp [renderTo, tokens, Token.chars]
  | .bool false => simp [renderTo, tokens, Token.chars]
  | .number n => simp [renderTo, tokens, Token.chars]
  | .string s => simp [renderTo, tokens, Token.chars, toList_quoteTo]
  | .array items =>
    have hitems := toList_renderItems (out.push '[') true items
    simp [renderTo, tokens, Token.chars, hitems]
  | .object members =>
    have hmembers := toList_renderMembers (out.push '\x7b') true members
    simp [renderTo, tokens, Token.chars, hmembers]

theorem toList_renderItems (out : String) (first : Bool) (items : List Json) :
    (renderItems out first items).toList =
      out.toList ++ (itemTokens first items).flatMap Token.chars := by
  match items with
  | [] => simp [renderItems, itemTokens]
  | item :: rest =>
    rw [renderItems, toList_renderItems, toList_renderTo, itemTokens]
    cases first <;> simp [Token.chars]

theorem toList_renderMembers (out : String) (first : Bool) (members : List (String × Json)) :
    (renderMembers out first members).toList =
      out.toList ++ (memberTokens first members).flatMap Token.chars := by
  match members with
  | [] => simp [renderMembers, memberTokens]
  | (name,value) :: rest =>
    rw [renderMembers, toList_renderMembers, toList_renderTo, memberTokens]
    cases first <;> simp [Token.chars, toList_quoteTo]

end

namespace Token
variable {t : Token} {ts : List Token}

lemma isChain_cons (ht : t.isNumber = false) (h : ts.IsChain Apart) : (t :: ts).IsChain Apart := by
  refine List.isChain_cons.mpr ⟨fun u _ hnumber => ?_,h⟩
  simp [ht] at hnumber

lemma spaced_cons (ht : t.isNumber = false) (h : ts.IsChain Apart) : Spaced (t :: ts) :=
  ⟨isChain_cons ht h,by simpa using ht⟩

end Token

open Token (Apart Spaced isChain_cons spaced_cons)

mutual

/-- Numbers in a value are apart from each other and from what follows. -/
theorem isChain_tokens_append (j : Json) {ts : List Token} (h : Spaced ts) :
    (j.tokens ++ ts).IsChain Apart := by
  match j with
  | .null | .bool _ | .string _ => exact isChain_cons rfl h.1
  | .number n => exact List.isChain_cons.mpr ⟨fun u hu _ => h.2 u hu,h.1⟩
  | .array items =>
    rw [tokens, List.cons_append, List.append_assoc]
    exact isChain_cons rfl (isChain_itemTokens_append true items (spaced_cons rfl h.1)).1
  | .object members =>
    rw [tokens, List.cons_append, List.append_assoc]
    exact isChain_cons rfl (isChain_memberTokens_append true members (spaced_cons rfl h.1)).1

theorem isChain_itemTokens_append (first : Bool) (items : List Json) {ts : List Token}
    (h : Spaced ts) : (itemTokens first items ++ ts).IsChain Apart ∧
      (first = false → Spaced (itemTokens first items ++ ts)) := by
  match items with
  | [] => exact ⟨h.1,fun _ => h⟩
  | item :: rest =>
    have hrest := (isChain_itemTokens_append false rest h).2 rfl
    have hitem := isChain_tokens_append item hrest
    rw [itemTokens, List.append_assoc, List.append_assoc]
    cases first with
    | true => exact ⟨hitem,by simp⟩
    | false => exact ⟨isChain_cons rfl hitem,fun _ => spaced_cons rfl hitem⟩

theorem isChain_memberTokens_append (first : Bool) (members : List (String × Json))
    {ts : List Token} (h : Spaced ts) : (memberTokens first members ++ ts).IsChain Apart ∧
      (first = false → Spaced (memberTokens first members ++ ts)) := by
  match members with
  | [] => exact ⟨h.1,fun _ => h⟩
  | (name,value) :: rest =>
    have hrest := (isChain_memberTokens_append false rest h).2 rfl
    have hvalue := isChain_tokens_append value hrest
    have hmember := isChain_cons (t := .string (.ok name)) rfl (isChain_cons (t := .colon) rfl hvalue)
    rw [memberTokens, List.append_assoc, List.cons_append, List.cons_append, List.append_assoc]
    cases first with
    | true => exact ⟨hmember,by simp⟩
    | false => exact ⟨isChain_cons rfl hmember,fun _ => spaced_cons rfl hmember⟩

end

/-- A value without numbers that are not whole. -/
def IsExact (j : Json) : Prop := ∀ t ∈ j.tokens, t.isExact = true

lemma isExact_itemTokens {items : List Json} (first : Bool) :
    (∀ t ∈ itemTokens first items, t.isExact = true) ↔ ∀ item ∈ items, item.IsExact := by
  induction items generalizing first with
  | nil => simp [itemTokens]
  | cons item items ih =>
    have hcomma : ∀ t ∈ (if first then [] else [Token.comma]), t.isExact = true := by
      cases first <;> simp [Token.isExact]
    rw [itemTokens, List.forall_mem_append, List.forall_mem_append, ih, List.forall_mem_cons]
    exact and_iff_right hcomma

lemma isExact_memberTokens {members : List (String × Json)} (first : Bool) :
    (∀ t ∈ memberTokens first members, t.isExact = true) ↔ ∀ m ∈ members, m.2.IsExact := by
  induction members generalizing first with
  | nil => simp [memberTokens]
  | cons m members ih =>
    have hcomma : ∀ t ∈ (if first then [] else [Token.comma]), t.isExact = true := by
      cases first <;> simp [Token.isExact]
    rw [memberTokens, List.forall_mem_append, List.forall_mem_cons, List.forall_mem_cons,
      List.forall_mem_append, ih, List.forall_mem_cons, and_iff_right hcomma]
    simp [Token.isExact, IsExact]

lemma isExact_array {items : List Json} :
    (array items).IsExact ↔ ∀ item ∈ items, item.IsExact := by
  rw [IsExact, tokens, List.forall_mem_cons, List.forall_mem_append, isExact_itemTokens]
  simp [Token.isExact]

lemma isExact_object {members : List (String × Json)} :
    (object members).IsExact ↔ ∀ m ∈ members, m.2.IsExact := by
  rw [IsExact, tokens, List.forall_mem_cons, List.forall_mem_append, isExact_memberTokens]
  simp [Token.isExact]

/-- No number of a value is next to another one. -/
theorem isChain_tokens (j : Json) : j.tokens.IsChain Apart := by
  have hnil : Spaced [] := ⟨.nil,by simp⟩
  simpa using isChain_tokens_append j hnil

end Checkout.Json
