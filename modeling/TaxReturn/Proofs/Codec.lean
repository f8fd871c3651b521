import TaxReturn.Proofs.Decimal.Reading

/-! What fields write and read again, kind by kind. All but text is read as it is kept, unless it is
a number with more places than are read: then it is the same number with fewer zeros at its end. -/
namespace TaxReturn

namespace Value

/-- The places of a number. No other value has any. -/
def places : Value → ℕ
  | .number d => d.scale
  | _ => 0

/-- Numbers are compared as numbers, whatever their places, and other values as they are. -/
def Same : Value → Value → Prop
  | .number d, .number d' => d.toRat = d'.toRat
  | v, w => v = w

/-- If the value is a number, it is one that arithmetic makes. -/
def Computed (v : Value) : Prop := ∀ d, v = .number d → d.Computed

theorem Same.refl (v : Value) : v.Same v := by
  cases v <;> rfl

end Value

namespace ValueKind

variable {kind : ValueKind} {v w : Value}

/-- The kinds whose values are written as something else than text. Keys stand for something, and
no blanks stand around them. -/
def Coded : ValueKind → Prop
  | boolean | integer | float => True
  | decimal places => places ≤ Decimal.maxScale
  | enumeration keys => ∀ key ∈ keys, key ≠ "" ∧ Text.trim key = key
  | text | ssn => False

/-- Only numbers of any places are kept with more places than are read. -/
theorem Coded.places_le (hk : kind.Coded) (hne : kind ≠ float) (h : kind.canonicalize v = .ok w) :
    w.places ≤ Decimal.maxScale := by
  have hholds := holds_of_canonicalize h
  cases w with
  | number d =>
    cases kind with
    | float => exact absurd rfl hne
    | decimal places => exact (fixPlaces_of_canonicalize h).2.trans hk
    | _ => cases hholds
  | _ => exact Nat.zero_le _

/-- What has no more places than are read is read as it is kept. -/
theorem Coded.decode_encode (hk : kind.Coded) (h : kind.canonicalize v = .ok w)
    (hplaces : w.places ≤ Decimal.maxScale) : kind.decode (kind.encode w) = .ok w := by
  have hholds := holds_of_canonicalize h
  have htrimmed : w.trimmed = w := by
    cases w with
    | text t =>
      cases kind with
      | text | ssn => exact absurd hk (by simp [Coded])
      | _ => cases hholds
    | _ => rfl
  have hread := ValueKind.decode_encode (w := v) (v := w) ?_ ?_ h
  · rwa [htrimmed] at hread
  · rintro key rfl
    have hmem := key_mem_of_holds hholds
    cases kind with
    | enumeration keys => exact hk key hmem
    | _ => cases hmem
  · rintro d rfl
    exact hplaces

/-- A number of any places is read with as many of them as are read. -/
theorem exists_decode_float (d : Decimal) : ∃ d',
    float.decode (float.encode (.number d)) = .ok (.number d') ∧
    d'.scale = min d.scale Decimal.maxScale ∧
    d'.toRat = (d.round .awayFromZero Decimal.maxScale).toRat := by
  obtain ⟨d', hparse, hscale, hvalue, -⟩ := d.exists_parse_text_eq
  refine ⟨d', ?_, hscale, hvalue⟩
  simp only [decode, encode, d.oneLine_text.trimmed, d.isEmpty_text, hparse, Bool.false_eq_true,
    if_false]

/-- Text is read without the blanks around it. -/
theorem decode_encode_text (hk : kind.isText = true) (h : kind.canonicalize v = .ok w) :
    kind.decode (kind.encode w) = .ok w.trimmed := by
  obtain ⟨t, rfl⟩ : ∃ t, w = .text t := by
    have hholds := holds_of_canonicalize h
    cases kind with
    | text | ssn =>
      cases w <;> cases hholds
      exact ⟨_, rfl⟩
    | _ => cases hk
  exact decode_encode (by simp) (by simp) h

/-- Whether a key is read from what is written for it: as one of the keys, or as none. -/
def ReadsKey (kind : ValueKind) (key : String) : Prop :=
  Text.trim key = "" ∨ Text.trim key ∈ kind.keys

/-- What is kept can be read from what is written, unless it is a key that cannot. -/
theorem exists_decode_encode_iff (h : kind.canonicalize v = .ok w) :
    (∃ w', kind.decode (kind.encode w) = .ok w') ↔
      ∀ key, w = .choice (some key) → kind.ReadsKey key := by
  have hholds := holds_of_canonicalize h
  cases w with
  | choice key =>
    cases kind with
    | enumeration keys =>
      cases key with
      | none => exact iff_of_true ⟨_, rfl⟩ (by simp)
      | some key =>
        by_cases hnone : Text.trim key = "" <;> by_cases hkey : Text.trim key ∈ keys <;>
          simp [decode, encode, ReadsKey, ValueKind.keys, hnone, hkey]
    | _ => cases hholds
  | number d =>
    refine iff_of_true ?_ (by simp)
    cases kind with
    | float =>
      obtain ⟨d', hd', -⟩ := exists_decode_float d
      exact ⟨_, hd'⟩
    | decimal places =>
      obtain ⟨d', hd', -⟩ := (d.fixPlaces places).exists_parse_text_eq
      refine ⟨.number (d'.fixPlaces places), ?_⟩
      simp only [decode, encode, (d.fixPlaces places).oneLine_text.trimmed, Decimal.isEmpty_text,
        hd', Bool.false_eq_true, if_false]
    | _ => cases hholds
  | _ => exact iff_of_true ⟨_, decode_encode (by simp) (by simp) h⟩ (by simp)

end ValueKind
end TaxReturn
