import TaxReturn.Proofs.Sections
import TaxReturn.Proofs.Typing

/-! Values as text. Numbers, answers and keys are written without blanks, and what is read from an
input stands on one line if what was entered did. -/
namespace TaxReturn

theorem OneLine.of_unblank {s : String} (h : ∀ c ∈ s.toList, Text.isBlank c = false) :
    OneLine s := by
  constructor
  · apply Text.trimmed_toList_iff.mp
    exact ⟨fun c hc => h c (List.mem_of_mem_head? hc),
      fun c hc => h c (List.mem_of_mem_getLast? hc)⟩
  · intro hn
    have := h _ hn
    revert this
    decide

theorem oneLine_empty : OneLine "" := .of_unblank (by simp)

theorem isBlank_of_isDigit {c : Char} (h : c.isDigit = true) : Text.isBlank c = false := by
  have hb : 48 ≤ c.toNat ∧ c.toNat ≤ 57 := by simpa [Char.isDigit, UInt32.le_iff_toNat_le] using h
  simp only [Text.isBlank, Bool.or_eq_false_iff, Bool.and_eq_false_iff, decide_eq_false_iff_not,
    beq_eq_false_iff_ne]
  omega

theorem OneLine.ofList_digits {cs : List Char} (h : ∀ c ∈ cs, c.isDigit = true) :
    OneLine (String.ofList cs) := by
  apply OneLine.of_unblank
  intro c hc
  rw [String.toList_ofList] at hc
  exact isBlank_of_isDigit (h c hc)

theorem isDigit_of_mem_toDigits {c : Char} {n : ℕ} (h : c ∈ Nat.toDigits 10 n) :
    c.isDigit = true :=
  Nat.isDigit_of_mem_toDigits (by decide) (by decide) h

namespace Decimal

/-- A decimal is printed as a sign and the digits of its magnitude, as many of them behind a point
as it has places. -/
theorem exists_digits (a : Decimal) : ∃ whole fraction : List Char, whole ≠ [] ∧
    fraction.length = a.scale ∧ (∀ c ∈ whole ++ fraction, c.isDigit = true) ∧
    Nat.ofDigitChars 10 (whole ++ fraction) 0 = a.magnitude ∧
    a.toChars = (if a.negative then ['-'] else []) ++ whole ++
      (if fraction.isEmpty then [] else '.' :: fraction) := by
  obtain ⟨significant, hs⟩ :
      ∃ l, (if a.magnitude = 0 then [] else Nat.toDigits 10 a.magnitude) = l :=
    ⟨_, rfl⟩
  obtain ⟨digits, hd⟩ : ∃ l, List.replicate (a.scale - significant.length) '0' ++ significant = l :=
    ⟨_, rfl⟩
  have hdigits : ∀ c ∈ digits, c.isDigit = true := by
    intro c hc
    rw [← hd] at hc
    rcases List.mem_append.mp hc with hc | hc
    · rw [(List.mem_replicate.mp hc).2]
      decide
    · rw [← hs] at hc
      split at hc
      · cases hc
      · exact isDigit_of_mem_toDigits hc
  have hlength : a.scale ≤ digits.length := by
    rw [← hd, List.length_append, List.length_replicate]
    omega
  have hvalue : Nat.ofDigitChars 10 digits 0 = a.magnitude := by
    rw [← hd, Nat.ofDigitChars_append, Nat.ofDigitChars_replicate_zero, ← hs, Nat.mul_zero]
    split
    · rename_i h
      exact h.symm
    · exact Nat.ofDigitChars_ten_toDigits
  refine ⟨if (digits.take (digits.length - a.scale)).isEmpty then ['0']
    else digits.take (digits.length - a.scale), digits.drop (digits.length - a.scale),
    ?_, ?_, ?_, ?_, ?_⟩
  · split
    · simp
    · rename_i h
      simpa using h
  · rw [List.length_drop]
    omega
  · intro c hc
    rcases List.mem_append.mp hc with hc | hc
    · split at hc
      · rw [List.mem_singleton.mp hc]
        decide
      · exact hdigits c (List.mem_of_mem_take hc)
    · exact hdigits c (List.mem_of_mem_drop hc)
  · split
    · rename_i h
      have hall : digits.drop (digits.length - a.scale) = digits := by
        have := List.take_append_drop (digits.length - a.scale) digits
        simpa [List.isEmpty_iff.mp h] using this
      rw [hall, ← hvalue]
      rfl
    · rw [List.take_append_drop, hvalue]
  · unfold toChars
    simp only [hs, hd]

theorem oneLine_text (a : Decimal) : OneLine a.text := by
  apply OneLine.of_unblank
  intro c hc
  obtain ⟨whole, fraction, -, -, hdigits, -, he⟩ := a.exists_digits
  rw [text, String.toList_ofList, he] at hc
  simp only [List.mem_append] at hc
  rcases hc with (hc | hc) | hc
  · split at hc
    · rw [List.mem_singleton.mp hc]
      decide
    · cases hc
  · exact isBlank_of_isDigit (hdigits c (List.mem_append_left _ hc))
  · split at hc
    · cases hc
    · rcases List.mem_cons.mp hc with rfl | hc
      · decide
      · exact isBlank_of_isDigit (hdigits c (List.mem_append_right _ hc))

end Decimal

namespace Scalar

theorem oneLine_boolText (b : Bool) : OneLine (boolText b) := by
  apply OneLine.of_unblank
  have hall : (boolText b).toList.all (fun c => !Text.isBlank c) = true := by cases b <;> decide
  simpa using hall

theorem oneLine_intText (i : Int64) : OneLine (intText i) := by
  apply OneLine.of_unblank
  intro c hc
  have hint : ∀ n : ℤ, ∀ c ∈ (toString n).toList, Text.isBlank c = false := by
    intro n c hc
    cases n with
    | ofNat n =>
      apply isBlank_of_isDigit
      exact isDigit_of_mem_toDigits (by simpa [toString, Int.repr, Nat.repr] using hc)
    | negSucc n =>
      have hc : c = '-' ∨ c ∈ Nat.toDigits 10 (n + 1) := by
        simpa [toString, Int.repr, Nat.repr] using hc
      rcases hc with rfl | hc
      · decide
      · exact isBlank_of_isDigit (isDigit_of_mem_toDigits hc)
  exact hint _ c hc

end Scalar

namespace ValueKind

variable {kind : ValueKind} {v : Value}

def isText : ValueKind → Bool
  | text | ssn => true
  | _ => false

/-- The keys that a field of the kind can hold. -/
def keys : ValueKind → List String
  | enumeration keys => keys
  | _ => []

theorem key_mem_of_holds {key : String} (h : kind.holds (.choice (some key))) :
    key ∈ kind.keys := by
  cases kind with
  | enumeration keys => exact of_decide_eq_true h
  | _ => cases h

/-- What is not text is written on one line, if keys are. -/
theorem oneLine_encode (hk : kind.isText = false) (hkeys : ∀ key ∈ kind.keys, OneLine key)
    (h : kind.holds v) : OneLine (kind.encode v) := by
  cases v with
  | empty => exact oneLine_empty
  | text s =>
    cases kind with
    | text | ssn => cases hk
    | _ => cases h
  | bool b => exact Scalar.oneLine_boolText b
  | int i => exact Scalar.oneLine_intText i
  | number d => cases kind <;> exact Decimal.oneLine_text _
  | choice key =>
    cases key with
    | none => exact oneLine_empty
    | some key =>
      cases kind with
      | enumeration keys => exact hkeys key (key_mem_of_holds h)
      | _ => cases h

end ValueKind

/-- Nothing that is given spans lines. -/
def InputStore.Unbroken (store : InputStore) : Prop :=
  ∀ q key raw, store.given.get? q key = some raw → '\n' ∉ raw.toList

theorem oneLine_trim {raw : String} (h : '\n' ∉ raw.toList) : OneLine (Text.trim raw) :=
  Sections.oneLine_ofList Text.trimmed_trimChars fun hm => h (Text.mem_of_mem_trimChars hm)

/-- Text that is read from a line stands on a line. -/
theorem InputSpec.oneLine_of_parse {spec : InputSpec} {raw s : String} (hr : '\n' ∉ raw.toList)
    (h : spec.parse raw = .ok (.text s)) : OneLine s := by
  have hreads := readsAs_of_parse h
  generalize spec.kind = kind at hreads
  cases hreads with
  | text | pattern => exact oneLine_trim hr
  | ssn hf hlength hd => exact .ofList_digits hd

/-- Text that is computed from inputs on single lines stands on a line. -/
def Compute.Legible (c : Compute Value) : Prop :=
  ∀ scope s, scope.inputs.Unbroken → c scope = .ok (.text s) → OneLine s

namespace Compute

variable {α : Type} {key : String}

theorem legible_input : Legible (Compute.input key) := by
  intro scope s hin h
  obtain ⟨spec, raw, -, hraw, hv⟩ := InputStore.parse_eq_ok.mp h
  obtain ⟨p, -, hp⟩ := Option.bind_eq_some_iff.mp hraw
  exact InputSpec.oneLine_of_parse (hin _ _ _ hp) hv

theorem legible_empty : Legible (pure .empty) := by
  intro scope s _ h
  cases h

theorem Legible.bind {c : Compute α} {f : α → Compute Value} (h : ∀ a, (f a).Legible) :
    Legible (c >>= f) := by
  intro scope s hin hs
  obtain ⟨a, -, ha⟩ := bind_eq_ok.mp hs
  exact h a scope s hin ha

theorem Legible.ite {p : Prop} [Decidable p] {c d : Compute Value} (hc : c.Legible)
    (hd : d.Legible) : Legible (if p then c else d) := by
  split
  · exact hc
  · exact hd

end Compute

/-- What a field of text makes of inputs on single lines is written on a line. -/
theorem Field.oneLine_encode {field : Field} {qualified : String} {scope : Scope} {v : Value}
    (hk : field.kind.isText = true) (hc : field.compute.Legible) (hin : scope.inputs.Unbroken)
    (h : field.evaluate qualified scope = .ok v) : OneLine (field.encode v) := by
  obtain ⟨w, hw, hcanon⟩ := evaluate_eq_ok.mp h
  have hkeeps := ValueKind.keeps_of_canonicalize hcanon
  unfold Field.encode
  generalize field.kind = kind at hk hkeeps ⊢
  cases hkeeps with
  | blank =>
    cases kind with
    | text | ssn => exact oneLine_empty
    | _ => cases hk
  | text | ssn => exact hc scope _ hin hw
  | _ => cases hk

end TaxReturn
