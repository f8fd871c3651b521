import TaxReturn.Text.Blank
import TaxReturn.Text.Split
import Mathlib.Data.List.DropRight

/-! Trimmed text has no blanks to drop, and text that is put together from lines comes apart into
them again. -/
namespace TaxReturn.Text

variable {sep : Char} {a b cs : List Char}

/-- No blanks stand at either end. -/
def Trimmed (cs : List Char) : Prop :=
  (∀ c ∈ cs.head?, isBlank c = false) ∧ ∀ c ∈ cs.getLast?, isBlank c = false

theorem trimmed_singleton {c : Char} (h : isBlank c = false) : Trimmed [c] := by
  simp [Trimmed, h]

theorem trimChars_eq : trimChars cs = (cs.dropWhile isBlank).rdropWhile isBlank := rfl

theorem head_dropWhile {c : Char} (h : c ∈ (cs.dropWhile isBlank).head?) : isBlank c = false := by
  have := List.head?_dropWhile_not isBlank cs
  rw [h] at this
  simpa using this

theorem getLast_rdropWhile {c : Char} (h : c ∈ (cs.rdropWhile isBlank).getLast?) :
    isBlank c = false := by
  rw [List.rdropWhile, List.getLast?_reverse] at h
  exact head_dropWhile h

theorem dropWhile_of_head (h : ∀ c ∈ cs.head?, isBlank c = false) : cs.dropWhile isBlank = cs := by
  cases cs with
  | nil => rfl
  | cons c cs => simp [h c rfl]

theorem rdropWhile_of_getLast (h : ∀ c ∈ cs.getLast?, isBlank c = false) :
    cs.rdropWhile isBlank = cs := by
  rw [List.rdropWhile, dropWhile_of_head, List.reverse_reverse]
  simpa using h

theorem Trimmed.trimChars (h : Trimmed cs) : trimChars cs = cs := by
  rw [trimChars_eq, dropWhile_of_head h.1, rdropWhile_of_getLast h.2]

theorem head?_of_isPrefix (h : a <+: b) (hne : a ≠ []) : a.head? = b.head? := by
  obtain ⟨tail, rfl⟩ := h
  cases a with
  | nil => exact absurd rfl hne
  | cons c cs => rfl

/-- Where no blank stands in front, trimming only shortens. -/
theorem isPrefix_trimChars (h : ∀ c ∈ cs.head?, isBlank c = false) : trimChars cs <+: cs := by
  rw [trimChars_eq, dropWhile_of_head h]
  exact List.rdropWhile_prefix _ _

theorem trimmed_trimChars : Trimmed (trimChars cs) := by
  refine ⟨fun c hc => ?_, fun c hc => getLast_rdropWhile hc⟩
  have hp : trimChars cs <+: cs.dropWhile isBlank := List.rdropWhile_prefix _ _
  by_cases hne : trimChars cs = []
  · rw [hne] at hc
    cases hc
  · rw [head?_of_isPrefix hp hne] at hc
    exact head_dropWhile hc

theorem trimChars_eq_self_iff : trimChars cs = cs ↔ Trimmed cs :=
  ⟨fun h => h ▸ trimmed_trimChars, Trimmed.trimChars⟩

theorem mem_of_mem_trimChars {c : Char} (h : c ∈ trimChars cs) : c ∈ cs :=
  (List.dropWhile_suffix _).subset ((List.rdropWhile_prefix _ _).subset h)

/-- Nothing is left of a text without anything but blanks, and of no other. -/
theorem trimChars_eq_nil_iff : trimChars cs = [] ↔ ∀ c ∈ cs, isBlank c = true := by
  rw [trimChars_eq, List.rdropWhile_eq_nil_iff]
  constructor
  · intro h
    rw [← List.dropWhile_eq_nil_iff]
    cases hd : cs.dropWhile isBlank with
    | nil => rfl
    | cons c rest =>
      have hfront : isBlank c = false := head_dropWhile (by rw [hd]; rfl)
      have hblank := h c (hd ▸ List.mem_cons_self)
      rw [hfront] at hblank
      cases hblank
  · intro h c hc
    exact h c ((List.dropWhile_suffix _).subset hc)

/-- A blank in front is dropped. -/
theorem trimChars_cons {c : Char} (h : isBlank c = true) : trimChars (c :: cs) = trimChars cs := by
  rw [trimChars_eq, trimChars_eq, List.dropWhile_cons_of_pos h]

/-- A blank at the end is dropped. -/
theorem trimChars_concat {c : Char} (h : isBlank c = true) :
    trimChars (cs ++ [c]) = trimChars cs := by
  rw [trimChars_eq, trimChars_eq, List.dropWhile_append]
  split
  · rename_i he
    simp [List.isEmpty_iff.mp he, List.dropWhile_cons_of_pos h]
  · rw [List.rdropWhile_concat_pos _ _ _ h]

theorem trimmed_of_ends {c d : Char} (hc : isBlank c = false) (hd : isBlank d = false) :
    Trimmed (c :: cs ++ [d]) := by
  constructor
  · intro e he
    cases he
    exact hc
  · intro e he
    rw [List.getLast?_append, List.getLast?_singleton] at he
    cases he
    exact hd

theorem trimmed_append (ha : Trimmed a) (hb : Trimmed b) (hane : a ≠ []) (hbne : b ≠ [])
    (mid : List Char) : Trimmed (a ++ mid ++ b) := by
  constructor
  · intro c hc
    apply ha.1
    rwa [head?_of_isPrefix ⟨mid ++ b, (List.append_assoc ..).symm⟩ hane]
  · intro c hc
    apply hb.2
    rwa [List.getLast?_append_of_ne_nil _ hbne] at hc

theorem trimmed_toList_iff {s : String} : Trimmed s.toList ↔ trim s = s := by
  rw [← trimChars_eq_self_iff, trim, ← String.toList_inj, String.toList_ofList]

theorem trim_trim (s : String) : trim (trim s) = trim s := by
  rw [← trimmed_toList_iff, trim, String.toList_ofList]
  exact trimmed_trimChars

/-- Each piece is free of what it was cut at. -/
theorem notMem_of_mem_piecesOf (h : a ∈ piecesOf sep cs) : sep ∉ a := by
  induction cs generalizing a with
  | nil =>
    rw [piecesOf, List.mem_singleton] at h
    simp [h]
  | cons c cs ih =>
    rw [piecesOf] at h
    split at h
    · rcases List.mem_cons.mp h with rfl | h
      · exact List.not_mem_nil
      · exact ih h
    · rename_i hc
      split at h
      · rw [List.mem_singleton] at h
        simp [h, Ne.symm hc]
      · rename_i p ps hp
        rw [hp] at ih
        rcases List.mem_cons.mp h with rfl | h
        · simp [Ne.symm hc, ih List.mem_cons_self]
        · exact ih (List.mem_cons_of_mem _ h)

theorem piecesOf_append (h : sep ∉ a) : piecesOf sep (a ++ sep :: cs) = a :: piecesOf sep cs := by
  induction a with
  | nil => simp [piecesOf]
  | cons c a ih =>
    simp only [List.mem_cons, not_or] at h
    simp [piecesOf, Ne.symm h.1, ih h.2]

/-- Lines that are each closed by the separator come apart into themselves. -/
theorem piecesOf_closed {parts : List (List Char)} (h : ∀ p ∈ parts, sep ∉ p) :
    piecesOf sep ((parts.flatMap (· ++ [sep])) ++ cs) = parts ++ piecesOf sep cs := by
  induction parts with
  | nil => rfl
  | cons p parts ih =>
    have ih := ih fun q hq => h q (List.mem_cons_of_mem _ hq)
    rw [List.flatMap_cons, List.append_assoc, List.append_assoc, List.singleton_append,
      piecesOf_append (h p List.mem_cons_self), ih, List.cons_append]

end TaxReturn.Text
