import Checkout.Proofs.Text.Pieces
import Checkout.Proofs.Webhook.Secret
import Mathlib

/-! The currencies of a configuration. A list with commas is cut into its pieces, and each piece that
is not blank gives one code, without the blanks around it and in capital letters. The codes are in a
normal form: joined by commas they are the same list again. -/
namespace Checkout

open Checkout.Text (IsTight Padded isBlank splitWhere splitWhere_eq_iff trimChars)

namespace Text

lemma isBlank_eq_false_of_isLower {c : Char} (h : c.isLower = true) : isBlank c = false := by
  have hn : 97 ≤ c.toNat ∧ c.toNat ≤ 122 := by
    simpa [Char.isLower, UInt32.le_iff_toNat_le] using h
  simp only [isBlank, Bool.or_eq_false_iff, Bool.and_eq_false_iff, decide_eq_false_iff_not,
    beq_eq_false_iff_ne]
  omega

lemma isUpper_toUpper_of_isLower {c : Char} (h : c.isLower = true) : c.toUpper.isUpper = true := by
  rw [Char.isUpper_toUpper_eq_isAlpha, Char.isAlpha, h, Bool.or_true]

/-- Upper case makes no blank and takes none away. -/
lemma isBlank_toUpper (c : Char) : isBlank c.toUpper = isBlank c := by
  cases hc : c.isLower with
  | true =>
    rw [isBlank_eq_false_of_isLower hc, ← Bool.not_eq_true]
    intro hblank
    cases (Integer.isUpper_of_isBlank hblank).symm.trans (isUpper_toUpper_of_isLower hc)
  | false => rw [Char.toUpper_eq_of_not_isLower (by simp [hc])]

/-- Upper case makes no comma. -/
lemma toUpper_eq_comma_iff {c : Char} : c.toUpper = ',' ↔ c = ',' := by
  cases hc : c.isLower with
  | true =>
    have hupper := isUpper_toUpper_of_isLower hc
    constructor
    · intro h
      rw [h] at hupper
      exact absurd hupper (by decide)
    · rintro rfl
      exact absurd hc (by decide)
  | false => rw [Char.toUpper_eq_of_not_isLower (by simp [hc])]

lemma IsTight.map_toUpper {cs : List Char} (h : IsTight cs) : IsTight (cs.map Char.toUpper) where
  front c hc := by
    rw [List.head?_map] at hc
    obtain ⟨d,hd,rfl⟩ := Option.map_eq_some_iff.mp hc
    rw [isBlank_toUpper, h.front d hd]
  back c hc := by
    rw [List.getLast?_map] at hc
    obtain ⟨d,hd,rfl⟩ := Option.map_eq_some_iff.mp hc
    rw [isBlank_toUpper, h.back d hd]

end Text

namespace Config

/-- The pieces of a text between its commas. -/
structure Pieces (text : List Char) (pieces : List (List Char)) : Prop where
  ne_nil : pieces ≠ []
  commaless : ∀ piece ∈ pieces, ',' ∉ piece
  joined : [','].intercalate pieces = text

/-- A code for a piece: what stands between the blanks around it, in capital letters. -/
def IsCodeFor (code : String) (piece : List Char) : Prop :=
  ∃ core, Padded core piece ∧ IsTight core ∧ code = String.ofList (core.map Char.toUpper)

/-- A text that is a code: there is something in it, but no comma, no small letter and no blank at
either end. -/
structure IsCode (code : String) : Prop where
  ne_empty : code ≠ ""
  commaless : ',' ∉ code.toList
  capital : ∀ c ∈ code.toList, c.isLower = false
  tight : IsTight code.toList

/-- The code of a piece. -/
def codeOf (piece : List Char) : String := Text.upperAscii (String.ofList (trimChars piece))

lemma pieces_iff {text : List Char} {pieces : List (List Char)} :
    Pieces text pieces ↔ pieces = splitWhere (· == ',') text := by
  rw [eq_comm, splitWhere_eq_iff]
  exact ⟨fun h => ⟨h.ne_nil,h.commaless,h.joined⟩,fun h => ⟨h.1,h.2.1,h.2.2⟩⟩

lemma toList_codeOf (piece : List Char) :
    (codeOf piece).toList = (trimChars piece).map Char.toUpper := by
  simp [codeOf, Text.upperAscii]

lemma isCodeFor_codeOf (piece : List Char) : IsCodeFor (codeOf piece) piece := by
  refine ⟨trimChars piece,Text.exists_eq_append_trimChars piece,Text.isTight_trimChars piece,?_⟩
  rw [← toList_codeOf, String.ofList_toList]

lemma codeOf_eq_empty_iff {piece : List Char} :
    codeOf piece = "" ↔ piece.all isBlank = true := by
  have hblank := Text.isBlankText_iff_trimChars (String.ofList piece)
  rw [Text.isBlankText, String.toList_ofList] at hblank
  rw [← String.toList_eq_nil_iff, toList_codeOf, List.map_eq_nil_iff, hblank]

/-- The codes of the pieces that are not blank. -/
lemma currencies_eq (s : String) : currencies s =
    ((splitWhere (· == ',') s.toList).filter fun piece => !piece.all isBlank).map codeOf := by
  have hkept : ((· != "") ∘ codeOf) = fun piece => !piece.all isBlank := by
    funext piece
    rw [Function.comp_apply, bne, Bool.not_inj_iff, Bool.eq_iff_iff, beq_iff_eq]
    exact codeOf_eq_empty_iff
  rw [← hkept, ← List.filter_map]
  rfl

/-- There is one code for each piece that is not blank, in their order. -/
lemma forall₂_currencies {s : String} {pieces : List (List Char)} (h : Pieces s.toList pieces) :
    List.Forall₂ IsCodeFor (currencies s) (pieces.filter fun piece => !piece.all isBlank) := by
  rw [pieces_iff.mp h, currencies_eq, List.forall₂_map_left_iff, List.forall₂_same]
  exact fun piece _ => isCodeFor_codeOf piece

lemma isCode_codeOf {piece : List Char} (hcommaless : ',' ∉ piece)
    (hblank : ¬ piece.all isBlank = true) : IsCode (codeOf piece) where
  ne_empty h := hblank (codeOf_eq_empty_iff.mp h)
  commaless h := by
    rw [toList_codeOf] at h
    obtain ⟨c,hc,hcomma⟩ := List.mem_map.mp h
    rw [Text.toUpper_eq_comma_iff.mp hcomma] at hc
    obtain ⟨l,r,hpiece,-⟩ := Text.exists_eq_append_trimChars piece
    refine hcommaless ?_
    rw [hpiece, List.mem_append, List.mem_append]
    exact .inl (.inr hc)
  capital c hc := by
    rw [toList_codeOf] at hc
    obtain ⟨d,-,rfl⟩ := List.mem_map.mp hc
    exact Char.isLower_toUpper_eq_false d
  tight := by
    rw [toList_codeOf]
    exact (Text.isTight_trimChars piece).map_toUpper

lemma isCode_of_mem_currencies {s code : String} (h : code ∈ currencies s) : IsCode code := by
  rw [currencies_eq] at h
  obtain ⟨piece,hpiece,rfl⟩ := List.mem_map.mp h
  obtain ⟨hmem,hblank⟩ := List.mem_filter.mp hpiece
  refine isCode_codeOf ?_ (by simpa using hblank)
  exact (pieces_iff.mpr rfl).commaless piece hmem

/-- A code is its own code. -/
lemma IsCode.codeOf_toList {code : String} (h : IsCode code) : codeOf code.toList = code := by
  have hsame : code.toList.map Char.toUpper = code.toList := by
    refine List.map_congr_left (g := id) (fun c hc => ?_) |>.trans (List.map_id _)
    exact Char.toUpper_eq_of_not_isLower (by simp [h.capital c hc])
  rw [← String.toList_inj, toList_codeOf, h.tight.trimChars_eq, hsame]

/-- Codes that are joined by commas are read as they are. -/
lemma currencies_intercalate {codes : List String} (h : ∀ code ∈ codes, IsCode code) :
    currencies (",".intercalate codes) = codes := by
  cases hcodes : codes with
  | nil =>
    -- No codes are joined to the empty text, which has one piece, and that is blank.
    rfl
  | cons =>
    rw [← hcodes]
    have hpieces : Pieces (",".intercalate codes).toList (codes.map String.toList) := by
      refine ⟨by simp [hcodes],?_,by rw [String.toList_intercalate]; rfl⟩
      intro piece hpiece
      obtain ⟨code,hcode,rfl⟩ := List.mem_map.mp hpiece
      exact (h code hcode).commaless
    have hkept : ∀ piece ∈ codes.map String.toList, (!piece.all isBlank) = true := by
      intro piece hpiece
      obtain ⟨code,hcode,rfl⟩ := List.mem_map.mp hpiece
      rw [Bool.not_eq_true', ← Bool.not_eq_true, ← codeOf_eq_empty_iff, (h code hcode).codeOf_toList]
      exact (h code hcode).ne_empty
    rw [currencies_eq, ← pieces_iff.mp hpieces, List.filter_eq_self.mpr hkept, List.map_map]
    refine List.map_congr_left (fun code hcode => ?_) |>.trans (List.map_id _)
    exact (h code hcode).codeOf_toList

lemma supportedCurrencies_of_ofVariables {vars : Variables} {config : Config}
    (h : ofVariables vars = .ok config) :
    let codes := currencies (vars.textOrEmpty "WOMPI_SUPPORTED_CURRENCIES")
    config.supportedCurrencies = if codes = [] then ["COP"] else codes := by
  intro codes
  obtain ⟨port,rfl⟩ := eq_assemble_of_ofVariables h
  simp only [assemble]
  split
  · next hnil => rw [if_pos hnil]
  · next hcons => rw [if_neg hcons]

/-- The codes of a list are those of its pieces that are not blank, in their order. The lists that come
out are exactly the lists of codes, each of them is read again from its codes joined by commas, and the
one in a configuration is never empty. -/
theorem currencies_normal :
    (∀ s, (∃! pieces, Pieces s.toList pieces) ∧ ∀ pieces, Pieces s.toList pieces →
      List.Forall₂ IsCodeFor (currencies s) (pieces.filter fun piece => !piece.all isBlank)) ∧
    (∀ codes, (∃ s, currencies s = codes) ↔ ∀ code ∈ codes, IsCode code) ∧
    (∀ s, currencies (",".intercalate (currencies s)) = currencies s) ∧
    ∀ vars config, ofVariables vars = .ok config →
      config.supportedCurrencies ≠ [] ∧
      let codes := currencies (vars.textOrEmpty "WOMPI_SUPPORTED_CURRENCIES")
      config.supportedCurrencies = if codes = [] then ["COP"] else codes := by
  refine ⟨fun s => ⟨?_,fun _ => forall₂_currencies⟩,fun codes => ⟨?_,?_⟩,fun s => ?_,?_⟩
  · exact ⟨_,pieces_iff.mpr rfl,fun pieces h => pieces_iff.mp h⟩
  · rintro ⟨s,rfl⟩ code hcode
    exact isCode_of_mem_currencies hcode
  · exact fun h => ⟨_,currencies_intercalate h⟩
  · exact currencies_intercalate fun code => isCode_of_mem_currencies
  · intro vars config h
    refine ⟨?_,supportedCurrencies_of_ofVariables h⟩
    obtain ⟨port,rfl⟩ := eq_assemble_of_ofVariables h
    exact supportedCurrencies_assemble_ne_nil vars port

/-- A list with a repeated code, an empty piece and a blank one. -/
def repeatedCodes : String := " usd,,cop ,\u3000,usd"

/-- The variables of a process in the sandbox that lists its currencies. -/
def listingVariables : Variables :=
  ("WOMPI_SUPPORTED_CURRENCIES",Text.Utf8.encode repeatedCodes) :: Webhook.sandboxVariables

theorem currencies_repeatedCodes :
    List.Forall₂ IsCodeFor (currencies repeatedCodes)
      [" usd".toList,"cop ".toList,"usd".toList] ∧
    (∃ config, ofVariables listingVariables = .ok config ∧
      config.supportedCurrencies = ["USD","COP","USD"]) ∧
    ∃ config, ofVariables Webhook.sandboxVariables = .ok config ∧
      config.supportedCurrencies = ["COP"] := by
  obtain ⟨hcodes,-,-,hconfig⟩ := currencies_normal
  refine ⟨?_,?_,?_⟩
  · have hpieces : Pieces repeatedCodes.toList
        [" usd".toList,[],"cop ".toList,"\u3000".toList,"usd".toList] :=
      pieces_iff.mpr (by decide +kernel)
    exact (hcodes repeatedCodes).2 _ hpieces
  · have hstarts : (ofVariables listingVariables).toOption.isSome := by decide +kernel
    obtain ⟨config,h⟩ := exists_eq_ok_of_isSome hstarts
    exact ⟨config,h,(hconfig _ config h).2.trans (by decide +kernel)⟩
  · have hstarts : (ofVariables Webhook.sandboxVariables).toOption.isSome := by decide +kernel
    obtain ⟨config,h⟩ := exists_eq_ok_of_isSome hstarts
    exact ⟨config,h,(hconfig _ config h).2.trans (by decide +kernel)⟩

end Config
end Checkout
