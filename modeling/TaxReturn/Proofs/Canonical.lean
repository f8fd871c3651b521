import TaxReturn.Proofs.Decoding

/-! What a field keeps is what it would keep again. Text that is kept is not blank unless it is
empty, a decimal has the places of its kind already, and nothing else is changed at all. -/
namespace TaxReturn

theorem Value.isBlank_iff {v : Value} :
    v.isBlank ↔ v = .empty ∨ ∃ s, v = .text s ∧ ∀ c ∈ s.toList, Text.isBlank c = true := by
  cases v <;> simp [isBlank, List.isEmpty_iff, Text.trimChars_eq_nil_iff]

namespace ValueKind

variable {kind : ValueKind} {v w : Value}

/-- The type of the values that a field of the kind holds, by the name that messages have for it. -/
def typeName : ValueKind → String
  | text | ssn => "text"
  | boolean => "boolean"
  | integer => "integer"
  | float | decimal _ => "number"
  | enumeration _ => "enum"

/-- A value that is kept again as it stands. -/
structure Canonical (kind : ValueKind) (w : Value) : Prop where
  fixed : kind.canonicalize w = .ok w
  encoded : (kind.canonicalize w).map kind.encode = .ok (kind.encode w)
  ne_empty : w ≠ .empty
  typed : w.typeName = kind.typeName
  declared : ∀ key, w = .choice (some key) → key ∈ kind.keys

/-- Places that are fixed stay so. -/
theorem keeps_fixPlaces (d : Decimal) (places : ℕ) :
    (decimal places).Keeps (.number (d.fixPlaces places)) (.number (d.fixPlaces places)) := by
  have hkeeps : (decimal places).Keeps (.number (d.fixPlaces places))
      (.number ((d.fixPlaces places).fixPlaces places)) := .decimal rfl
  rwa [d.fixPlaces_fixPlaces] at hkeeps

theorem keeps_empty (kind : ValueKind) : kind.Keeps kind.empty kind.empty := by
  cases kind with
  | text | ssn => exact .blank (by decide)
  | boolean => exact .boolean
  | integer => exact .integer
  | float => exact .float rfl
  | decimal places => exact keeps_fixPlaces 0 places
  | enumeration keys => exact .none

/-- Text without blanks around it is kept as it is. -/
theorem keeps_trimmed {s : String} (hk : kind.isText = true) (hs : Text.trim s = s) :
    kind.Keeps (.text s) (.text s) := by
  by_cases hb : (Value.text s).isBlank
  · have hnil : Text.trimChars s.toList = [] := List.isEmpty_iff.mp hb
    have hempty : s = "" := by rw [← hs, Text.trim, hnil]
    rw [hempty]
    cases kind with
    | text | ssn => exact .blank (by decide)
    | _ => cases hk
  · cases kind with
    | text => exact .text hb
    | ssn => exact .ssn hb
    | _ => cases hk

/-- Whatever is kept of a value, the same is kept of it again. -/
theorem Keeps.again (h : kind.Keeps v w) : kind.Keeps w w := by
  cases h with
  | blank => exact kind.keeps_empty
  | text hb => exact .text hb
  | ssn hb => exact .ssn hb
  | boolean => exact .boolean
  | integer => exact .integer
  | float => exact .float rfl
  | decimal => exact keeps_fixPlaces _ _
  | none => exact .none
  | key hm => exact .key hm

theorem Keeps.typeName_eq (h : kind.Keeps v w) : w.typeName = kind.typeName := by
  cases h with
  | blank => cases kind <;> rfl
  | _ => rfl

theorem Keeps.ne_empty (h : kind.Keeps v w) : w ≠ .empty := by
  cases h with
  | blank => cases kind <;> exact nofun
  | _ => exact nofun

theorem canonical_of_canonicalize (h : kind.canonicalize v = .ok w) : kind.Canonical w := by
  have hkeeps := keeps_of_canonicalize h
  have hfixed := hkeeps.again.canonicalize
  refine ⟨hfixed, by rw [hfixed]; rfl, hkeeps.ne_empty, hkeeps.typeName_eq, ?_⟩
  rintro key rfl
  exact key_mem_of_holds (holds_of_canonicalize h)

end ValueKind
end TaxReturn
