import TaxReturn.Input.Spec

/-! Kinds of fields and of inputs: all that a field of a kind keeps of what is computed for it, and
all that an input of a kind reads from what is entered. -/
namespace TaxReturn

/-- What a field of a kind keeps of a value. -/
inductive ValueKind.Keeps : ValueKind → Value → Value → Prop
  | blank {kind : ValueKind} {v : Value} (hb : v.isBlank) : Keeps kind v kind.empty
  | text {s : String} (hb : ¬ (Value.text s).isBlank) : Keeps .text (.text s) (.text s)
  | ssn {s : String} (hb : ¬ (Value.text s).isBlank) : Keeps .ssn (.text s) (.text s)
  | boolean {b : Bool} : Keeps .boolean (.bool b) (.bool b)
  | integer {i : Int64} : Keeps .integer (.int i) (.int i)
  | float {v : Value} {d : Decimal} (hd : v.asDecimal? = some d) : Keeps .float v (.number d)
  | decimal {places : Nat} {v : Value} {d : Decimal} (hd : v.asDecimal? = some d) :
      Keeps (.decimal places) v (.number (d.fixPlaces places))
  | none {keys : List String} : Keeps (.enumeration keys) (.choice none) (.choice none)
  | key {keys : List String} {key : String} (hm : key ∈ keys) :
      Keeps (.enumeration keys) (.choice (some key)) (.choice (some key))

/-- What an input of a kind reads from an entry that has no blanks around it. -/
inductive InputKind.ReadsAs : InputKind → String → Value → Prop
  | text {entry : String} : ReadsAs .text entry (.text entry)
  | boolean {entry : String} {b : Bool} (hb : Scalar.parseBool entry = some b) :
      ReadsAs .boolean entry (.bool b)
  | noInteger {entry : String} (he : entry.isEmpty) : ReadsAs .integer entry (.int 0)
  | integer {entry : String} {i : Int64} (he : ¬ entry.isEmpty)
      (hi : Scalar.parseInt entry = .ok i) : ReadsAs .integer entry (.int i)
  | noAmount {entry : String} (he : entry.isEmpty) : ReadsAs .float entry (.number 0)
  | amount {entry : String} {d : Decimal} (he : ¬ entry.isEmpty)
      (hd : Decimal.parseAmount entry = .ok d) : ReadsAs .float entry (.number d)
  | blank {entry : String} {options : List InputOption} (he : entry.isEmpty) :
      ReadsAs (.enumeration options true) entry (.choice none)
  | key {entry : String} {options : List InputOption} {allowBlank : Bool} (he : ¬ entry.isEmpty)
      (hm : entry ∈ options.map (·.key)) :
      ReadsAs (.enumeration options allowBlank) entry (.choice (some entry))
  | pattern {entry source : String} {pattern : Pattern} (hp : pattern.occursIn entry) :
      ReadsAs (.pattern source pattern) entry (.text entry)
  | ssn {entry : String} {digits : List Char} (hf : entry.toList.filter (· != '-') = digits)
      (hlength : digits.length = 9) (hd : ∀ c ∈ digits, c.isDigit = true) :
      ReadsAs .ssn entry (.text (String.ofList digits))

namespace ValueKind

variable {kind : ValueKind} {v w : Value}

theorem keeps_of_canonicalize (h : kind.canonicalize v = .ok w) : kind.Keeps v w := by
  unfold canonicalize at h
  split at h
  · rename_i hb
    cases h
    exact .blank hb
  rename_i hb
  split at h
  case h_1 s => cases h; exact .text hb
  case h_2 s => cases h; exact .ssn hb
  case h_10 keys key =>
    split at h
    · rename_i hm
      cases h
      exact .key hm
    · cases h
  all_goals cases h
  · exact .boolean
  · exact .integer
  · exact .float rfl
  · exact .float rfl
  · exact .decimal rfl
  · exact .decimal rfl
  · exact .none

theorem Keeps.canonicalize (h : kind.Keeps v w) : kind.canonicalize v = .ok w := by
  cases h with
  | blank hb => exact if_pos hb
  | text hb | ssn hb => exact if_neg hb
  | float hd | decimal hd =>
    cases v <;> cases hd
    · rfl
    · rfl
  | key hm => exact if_pos hm
  | _ => rfl

end ValueKind

namespace InputSpec

variable {spec : InputSpec} {raw : String} {v : Value}

theorem readsAs_of_parse (h : spec.parse raw = .ok v) : spec.kind.ReadsAs (Text.trim raw) v := by
  unfold parse at h
  generalize Text.trim raw = entry at h
  cases hk : spec.kind with
  | text =>
    simp only [hk] at h
    cases h
    exact .text
  | boolean =>
    simp only [hk] at h
    split at h <;> cases h
    exact .boolean ‹_›
  | integer =>
    simp only [hk] at h
    split at h
    · cases h
      exact .noInteger ‹_›
    · split at h <;> cases h
      exact .integer ‹_› ‹_›
  | float =>
    simp only [hk] at h
    split at h
    · cases h
      exact .noAmount ‹_›
    · split at h <;> cases h
      exact .amount ‹_› ‹_›
  | enumeration options allowBlank =>
    simp only [hk] at h
    split at h
    · split at h <;> cases h
      rename_i hblank
      rw [hblank]
      exact .blank ‹_›
    · split at h <;> cases h
      exact .key ‹_› ‹_›
  | pattern source pattern =>
    simp only [hk] at h
    split at h <;> cases h
    exact .pattern ‹_›
  | ssn =>
    simp only [hk] at h
    split at h
    · rename_i hd
      cases h
      exact .ssn rfl hd.1 (List.all_eq_true.mp hd.2)
    · cases h

theorem parse_of_readsAs (h : spec.kind.ReadsAs (Text.trim raw) v) : spec.parse raw = .ok v := by
  obtain ⟨name, kind, description⟩ := spec
  unfold parse
  generalize Text.trim raw = entry at h
  cases h with
  | text => rfl
  | boolean hb => simp only [hb]
  | noInteger he | noAmount he | blank he => simp only [he, if_true]
  | integer he hi => simp only [he, hi, Bool.false_eq_true, if_false]
  | amount he hd => simp only [he, hd, Bool.false_eq_true, if_false]
  | key he hm => simp only [he, hm, Bool.false_eq_true, if_false, if_true]
  | pattern hp => simp only [hp, if_true]
  | @ssn _ digits hf hlength hd =>
    have hall : digits.all Char.isDigit = true := List.all_eq_true.mpr hd
    simp only [hf, hlength, hall, and_self, if_true]

end InputSpec
end TaxReturn
