import Checkout.Service.Metrics
import Checkout.Proofs.Entries
import Checkout.Proofs.Text.Numeral
import Checkout.Proofs.Text.Pieces

/-! What a counter holds and what its text shows. A counter is determined by how often each label was
counted and by which labels were only asked for, in whatever order that happened. Its text has one
line for each label, and no label can be written so that it looks like another one or like more than
one line. -/
namespace Checkout.Service.Counter

open Checkout.Entries
open Checkout.Text (splitWhere splitWhere_append_cons splitWhere_of_forall)

/-- A counter holds the labels that were counted and those that were asked for in their order, each
with how often it was counted. -/
structure Holds (c : Counter) (counted asked : List String) : Prop where
  ordered : c.samples.Pairwise fun s s' => s.1 < s'.1
  lookup_eq : ∀ label, c.samples.lookup label =
    if label ∈ counted ∨ label ∈ asked then some (counted.count label) else none

section Holds
variable {c c' : Counter} {counted counted' asked asked' : List String} {label : String}

lemma change_eq_alter (label : String) (f : ℕ → ℕ) (samples : List (String × ℕ)) :
    change label f samples = alter label (f 0) f samples := by
  induction samples with
  | nil => rfl
  | cons s samples ih => simp only [change, alter, ih]

lemma holds_empty : empty.Holds [] [] := ⟨List.Pairwise.nil,fun _ => rfl⟩

/-- The count of a label is how often it was counted. -/
theorem Holds.count_eq (h : c.Holds counted asked) (label : String) :
    c.count label = counted.count label := by
  rw [count, h.lookup_eq]
  split
  · rfl
  · next hnone => exact (List.count_eq_zero.mpr fun hmem => hnone (.inl hmem)).symm

lemma Holds.elim_lookup (h : c.Holds counted asked) (label : String) (f : ℕ → ℕ) :
    (c.samples.lookup label).elim (f 0) f = f (counted.count label) := by
  rw [← h.count_eq, count]
  cases c.samples.lookup label <;> rfl

theorem Holds.record (h : c.Holds counted asked) (label : String) :
    (c.record label).Holds (counted ++ [label]) asked := by
  refine ⟨?_,fun l => ?_⟩ <;> simp only [Counter.record, change_eq_alter]
  · exact pairwise_alter h.ordered
  · by_cases hl : l = label
    · subst hl
      simp [lookup_alter_self h.ordered, h.elim_lookup l (· + 1)]
    · have hother : (label == l) = false := beq_false_of_ne (Ne.symm hl)
      simp [lookup_alter_of_ne hl, h.lookup_eq, hl, List.count_singleton, hother]

/-- Counting a label once more changes no other one. -/
theorem Holds.lookup_record (h : c.Holds counted asked) (label l : String) :
    (c.record label).samples.lookup l =
      if l = label then some (c.count label + 1) else c.samples.lookup l := by
  simp only [Counter.record, change_eq_alter]
  split
  · next hl => rw [hl, lookup_alter_self h.ordered, h.elim_lookup label (· + 1), h.count_eq]
  · next hl => rw [lookup_alter_of_ne hl]

theorem Holds.touch (h : c.Holds counted asked) (label : String) :
    (c.touch label).Holds counted (asked ++ [label]) := by
  refine ⟨?_,fun l => ?_⟩ <;> simp only [Counter.touch, change_eq_alter]
  · exact pairwise_alter h.ordered
  · by_cases hl : l = label
    · subst hl
      simp [lookup_alter_self h.ordered, h.elim_lookup l fun n => n]
    · simp [lookup_alter_of_ne hl, h.lookup_eq, hl]

/-- What was counted and asked for determines a counter, the order does not matter. -/
theorem Holds.unique (h : c.Holds counted asked) (h' : c'.Holds counted' asked')
    (hcounted : counted.Perm counted') (hasked : asked.Perm asked') : c = c' := by
  have hsamples : c.samples = c'.samples := by
    refine eq_of_lookup_eq h.ordered h'.ordered fun label => ?_
    rw [h.lookup_eq, h'.lookup_eq]
    simp only [hcounted.mem_iff, hasked.mem_iff, hcounted.count_eq]
  cases c
  cases c'
  simpa using hsamples

/-- A counter has one sample of each label that was counted or asked for. -/
lemma Holds.count_samples (h : c.Holds counted asked) (label : String) (n : ℕ) :
    c.samples.count (label,n) =
      if (label ∈ counted ∨ label ∈ asked) ∧ n = counted.count label then 1 else 0 := by
  have hnodup := nodup_of_pairwise h.ordered
  rw [hnodup.of_map.count]
  simp only [← lookup_eq_some_iff_mem hnodup, h.lookup_eq]
  simp [eq_comm]

end Holds

section Text
variable {name name' help labelName labelName' label label' : String} {n n' : ℕ}

/-- The lines of a text. -/
def linesOf (s : String) : List (List Char) := splitWhere (· == '\n') s.toList

/-- The line that shows the count of a label. -/
def sampleLine (name labelName label : String) (n : ℕ) : List Char :=
  name.toList ++ '\x7b' :: (labelName.toList ++ '=' :: '"' :: ((escapeLabel label).toList ++
    '"' :: '\x7d' :: ' ' :: (toString n).toList))

/-- A character of a label as it stands between quotes. -/
def escapeChar (c : Char) : List Char :=
  if c = '\\' then ['\\', '\\'] else if c = '\n' then ['\\', 'n']
  else if c = '"' then ['\\', '"'] else [c]

lemma toList_escapeLabel (label : String) :
    (escapeLabel label).toList = label.toList.flatMap escapeChar := String.toList_ofList

lemma newline_notMem_escapeChar (c : Char) : '\n' ∉ escapeChar c := by
  unfold escapeChar
  split
  · decide
  · split
    · decide
    · split
      · decide
      · next hnewline _ => simpa using Ne.symm hnewline

lemma escapeChar_append_inj {c d : Char} {x y : List Char}
    (h : escapeChar c ++ x = escapeChar d ++ y) : c = d ∧ x = y := by
  unfold escapeChar at h
  split_ifs at h <;> grind

lemma escapeChar_append_ne_quote {c : Char} {x y : List Char} : escapeChar c ++ x ≠ '"' :: y := by
  unfold escapeChar
  split_ifs <;> simp_all

/-- No quote inside of a label can be taken for the one behind it. -/
lemma flatMap_escapeChar_quote_inj {cs ds r s : List Char}
    (h : cs.flatMap escapeChar ++ '"' :: r = ds.flatMap escapeChar ++ '"' :: s) :
    cs = ds ∧ r = s := by
  induction cs generalizing ds with
  | nil =>
    cases ds with
    | nil => simpa using h
    | cons d ds => exact absurd (by simpa using h.symm) escapeChar_append_ne_quote
  | cons c cs ih =>
    cases ds with
    | nil => exact absurd (by simpa using h) escapeChar_append_ne_quote
    | cons d ds =>
      -- No character is written as the beginning of another one, so the first ones are the same.
      rw [List.flatMap_cons, List.flatMap_cons, List.append_assoc, List.append_assoc] at h
      obtain ⟨rfl,hrest⟩ := escapeChar_append_inj h
      obtain ⟨rfl,rfl⟩ := ih hrest
      exact ⟨rfl,rfl⟩

lemma toString_injective {m n : ℕ} (h : (toString m).toList = (toString n).toList) : m = n := by
  have hm := Text.Integer.denotes_toString m
  have hn := Text.Integer.denotes_toString n
  exact Int.ofNat.inj ((h ▸ hm : Text.Integer.Denotes (toString n).toList m).unique hn)

/-- A line shows the count of one label only. -/
theorem sampleLine_inj : sampleLine name labelName label n = sampleLine name labelName label' n' ↔
    label = label' ∧ n = n' := by
  refine ⟨fun h => ?_,fun ⟨hlabel,hn⟩ => hlabel ▸ hn ▸ rfl⟩
  simp only [sampleLine, toList_escapeLabel, List.append_cancel_left_eq, List.cons.injEq,
    true_and] at h
  obtain ⟨hlabel,hdigits⟩ := flatMap_escapeChar_quote_inj h
  simp only [List.cons.injEq, true_and] at hdigits
  exact ⟨String.toList_inj.mp hlabel,toString_injective hdigits⟩

/-- The words that a counter is written with do not break its lines, and its name looks neither like
the name of another counter nor like a comment. -/
structure Writable (name help labelName : String) : Prop where
  name : ∀ c ∈ name.toList, c ∉ ['\n','#','\x7b']
  help : '\n' ∉ help.toList
  labelName : '\n' ∉ labelName.toList

lemma Writable.newline_notMem (h : Writable name help labelName) : '\n' ∉ name.toList :=
  fun hmem => h.name _ hmem (by simp)

lemma newline_notMem_sampleLine (h : Writable name help labelName) (label : String) (n : ℕ) :
    '\n' ∉ sampleLine name labelName label n := by
  have hlabel : '\n' ∉ (escapeLabel label).toList := by
    rw [toList_escapeLabel, List.mem_flatMap]
    rintro ⟨c,-,hc⟩
    exact newline_notMem_escapeChar c hc
  have hdigits : '\n' ∉ (toString n).toList := by
    intro hmem
    rcases (Text.Integer.denotes_toString n).isDigit_or_sign hmem with h | h | h <;> revert h <;>
      decide
  simp only [sampleLine, List.mem_append, List.mem_cons, not_or]
  exact ⟨h.newline_notMem,by decide,h.labelName,by decide,by decide,hlabel,by decide,by decide,
    by decide,hdigits⟩

lemma sampleLine_ne_comment (h : Writable name help labelName) (rest : List Char) :
    sampleLine name labelName label n ≠ '#' :: rest := by
  have hname := h.name '#'
  unfold sampleLine
  cases hcs : name.toList with
  | nil => simp
  | cons c cs =>
    intro hline
    have hc : c = '#' := (List.cons.inj hline).1
    exact hname (by simp [hcs, hc]) (by simp)

/-- A line shows a sample of one counter only. -/
lemma name_eq_of_sampleLine_eq (h : Writable name help labelName)
    (h' : Writable name' help' labelName')
    (hline : sampleLine name labelName label n = sampleLine name' labelName' label' n') :
    name = name' := by
  have hcut {name help labelName label : String} {n : ℕ} (h : Writable name help labelName) :
      (sampleLine name labelName label n).takeWhile (· != '\x7b') = name.toList := by
    have hname : ∀ c ∈ name.toList, (c != '\x7b') = true :=
      fun c hc => bne_iff_ne.mpr fun hbrace => h.name c hc (by simp [hbrace])
    rw [sampleLine, List.takeWhile_append_of_pos hname, List.takeWhile_cons]
    exact List.append_nil _
  rw [← String.toList_inj, ← hcut h, hline, hcut h']

/-- The lines of a counter: none if it has no samples, otherwise two that describe it and one for
each sample. -/
def lines (name help labelName : String) (c : Counter) : List (List Char) :=
  if c.samples.isEmpty then []
  else ("# HELP " ++ name ++ " " ++ help).toList :: ("# TYPE " ++ name ++ " counter").toList ::
    c.samples.map fun s => sampleLine name labelName s.1 s.2

theorem toList_render (name help labelName : String) (c : Counter) :
    (c.render name help labelName).toList =
      (c.lines name help labelName).flatMap (· ++ ['\n']) := by
  unfold render lines
  split
  · rfl
  · simp [String.toList_join, List.flatMap_map, sampleLine]

variable {c : Counter} {line : List Char}

lemma mem_lines (h : line ∈ c.lines name help labelName) :
    (∃ rest, line = '#' :: rest) ∨ ∃ label n, line = sampleLine name labelName label n := by
  unfold lines at h
  split at h
  · cases h
  · rcases List.mem_cons.mp h with rfl | h
    · exact .inl ⟨_,by simp only [String.toList_append]; rfl⟩
    · rcases List.mem_cons.mp h with rfl | h
      · exact .inl ⟨_,by simp only [String.toList_append]; rfl⟩
      · obtain ⟨s,-,rfl⟩ := List.mem_map.mp h
        exact .inr ⟨s.1,s.2,rfl⟩

lemma newline_notMem_of_mem_lines (h : Writable name help labelName)
    (hline : line ∈ c.lines name help labelName) : '\n' ∉ line := by
  unfold lines at hline
  split at hline
  · cases hline
  · rcases List.mem_cons.mp hline with rfl | hline
    · simp [h.newline_notMem, h.help]
    · rcases List.mem_cons.mp hline with rfl | hline
      · simp [h.newline_notMem]
      · obtain ⟨s,-,rfl⟩ := List.mem_map.mp hline
        exact newline_notMem_sampleLine h s.1 s.2

/-- Among the lines of a counter is one for each label that was counted or asked for, and it shows how
often the label was counted. -/
theorem Holds.count_lines {counted asked : List String} (hc : c.Holds counted asked)
    (h : Writable name help labelName) (label : String) (n : ℕ) :
    (c.lines name help labelName).count (sampleLine name labelName label n) =
      if (label ∈ counted ∨ label ∈ asked) ∧ n = counted.count label then 1 else 0 := by
  have hinj : Function.Injective fun s : String × ℕ => sampleLine name labelName s.1 s.2 :=
    fun s s' hs => Prod.ext_iff.mpr (sampleLine_inj.mp hs)
  have hsamples : (c.samples.map fun s => sampleLine name labelName s.1 s.2).count
      (sampleLine name labelName label n) = c.samples.count (label,n) :=
    List.count_map_of_injective c.samples _ hinj (label,n)
  rw [← hc.count_samples]
  unfold lines
  split
  · next hempty => rw [List.isEmpty_iff.mp hempty]; rfl
  · have hcomment {rest : List Char} : ('#' :: rest == sampleLine name labelName label n) = false :=
      beq_false_of_ne (sampleLine_ne_comment h rest).symm
    simp [List.count_cons, hcomment, hsamples]

end Text
end Checkout.Service.Counter
