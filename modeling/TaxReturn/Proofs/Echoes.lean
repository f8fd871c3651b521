import TaxReturn.Line
import TaxReturn.Proofs.Canonical
import TaxReturn.Proofs.Decimal.Reading
import TaxReturn.Proofs.Typing

/-! Inputs and the kinds of fields that copy them. What can be entered for an input is kept as it is
by a field of the input's own kind, and what the field writes for it is read as the same value, by
the field and by the input alike. -/
namespace TaxReturn

variable {spec : InputSpec} {kind : InputKind} {entry raw : String} {v : Value}

namespace InputKind.ReadsAs

/-- What is read from a trimmed entry is kept as it is by a field of the input's kind. -/
theorem keeps (h : kind.ReadsAs entry v) (ht : Text.trim entry = entry) :
    kind.valueKind.Keeps v v := by
  cases h with
  | text | pattern => exact ValueKind.keeps_trimmed rfl ht
  | boolean => exact .boolean
  | noInteger | integer => exact .integer
  | noAmount | amount => exact .float rfl
  | blank => exact .none
  | key he hm => exact .key hm
  | ssn hf hlength hd => exact ValueKind.keeps_trimmed rfl (OneLine.ofList_digits hd).trimmed

/-- What the field writes for it has no blanks around it, and the input reads it as the same. -/
theorem encode (h : kind.ReadsAs entry v) (ht : Text.trim entry = entry) :
    Text.trim (kind.valueKind.encode v) = kind.valueKind.encode v ∧
      kind.ReadsAs (kind.valueKind.encode v) v := by
  have hinteger : ∀ i, InputKind.integer.ReadsAs (Scalar.intText i) (.int i) := fun i =>
    .integer (ne_true_of_eq_false (Scalar.isEmpty_intText i)) (Scalar.parseInt_intText i)
  have hamount : ∀ d : Decimal, d.scale ≤ Decimal.maxScale → d.IsAmount →
      InputKind.float.ReadsAs d.text (.number d) := fun d hs ha =>
    .amount (ne_true_of_eq_false d.isEmpty_text)
      (Decimal.parseAmount_eq_ok_iff.mpr ⟨Decimal.parse_text hs, ha⟩)
  cases h with
  | text => exact ⟨ht, .text⟩
  | @boolean _ b =>
    exact ⟨(Scalar.oneLine_boolText b).trimmed, .boolean (Scalar.parseBool_boolText b)⟩
  | noInteger => exact ⟨(Scalar.oneLine_intText 0).trimmed, hinteger 0⟩
  | @integer _ i => exact ⟨(Scalar.oneLine_intText i).trimmed, hinteger i⟩
  | noAmount =>
    exact ⟨(Decimal.oneLine_text 0).trimmed, hamount 0 (Nat.zero_le _) (Nat.zero_le _)⟩
  | @amount _ d he hd =>
    obtain ⟨hparse, ha⟩ := Decimal.parseAmount_eq_ok_iff.mp hd
    exact ⟨d.oneLine_text.trimmed, hamount d (Decimal.scale_parse_le hparse) ha⟩
  | blank => exact ⟨oneLine_empty.trimmed, .blank rfl⟩
  | key he hm => exact ⟨ht, .key he hm⟩
  | pattern hp => exact ⟨ht, .pattern hp⟩
  | @ssn _ digits hf hlength hd =>
    -- There are no dashes left to drop.
    have hdigits : digits.filter (· != '-') = digits := by
      refine List.filter_eq_self.mpr fun c hc => bne_iff_ne.mpr ?_
      rintro rfl
      exact absurd (hd _ hc) (by decide)
    refine ⟨(OneLine.ofList_digits hd).trimmed, .ssn ?_ hlength hd⟩
    rw [ValueKind.encode, String.toList_ofList, hdigits]

/-- And the field reads it as the same. -/
theorem decode_encode (h : kind.ReadsAs entry v) (ht : Text.trim entry = entry) :
    kind.valueKind.decode (kind.valueKind.encode v) = .ok v := by
  have htrimmed : v.trimmed = v := by
    cases h with
    | text | pattern => exact congrArg Value.text ht
    | ssn hf hlength hd => exact congrArg Value.text (OneLine.ofList_digits hd).trimmed
    | _ => rfl
  have hread := ValueKind.decode_encode ?_ ?_ (h.keeps ht).canonicalize
  · rwa [htrimmed] at hread
  · rintro key rfl
    cases h with
    | key he hm => exact ⟨fun hempty => he (String.isEmpty_iff.mpr hempty), ht⟩
  · rintro d rfl
    cases h with
    | noAmount => exact Nat.zero_le _
    | amount he hd => exact Decimal.scale_parse_le (Decimal.parseAmount_eq_ok_iff.mp hd).1

end InputKind.ReadsAs

/-- An input without a value is not known, not given or not readable, but never of a wrong type. -/
theorem InputStore.parse_ne_wrongType {store : InputStore} {n qualified label found : String} :
    store.parse n ≠ .error (.fatal (.wrongType qualified label found)) := by
  unfold parse
  split
  · simp
  · split
    · simp
    · split <;> simp

namespace Line

variable {name key qualified : String} {scope : Scope}

/-- A field that copies an input in the input's own kind comes to what the input does. -/
theorem evaluate_echo (hspec : scope.inputs.spec? (scope.qualify key) = some spec) :
    (echo name spec.kind.valueKind key).evaluate qualified scope = Compute.input key scope := by
  cases hinput : Compute.input key scope with
  | error signal =>
    have hcompute : (echo name spec.kind.valueKind key).compute scope = .error signal := hinput
    rw [Field.evaluate, hcompute]
    rfl
  | ok v =>
    obtain ⟨spec', raw, hspec', -, hparse⟩ := InputStore.parse_eq_ok.mp hinput
    rw [hspec] at hspec'
    cases hspec'
    have hkeeps := (InputSpec.readsAs_of_parse hparse).keeps (Text.trim_trim raw)
    exact Field.evaluate_eq_ok.mpr ⟨v, hinput, hkeeps.canonicalize⟩

end Line

/-- What an input gives is kept as it is by a field of the input's own kind. The text that is
written for it is a valid answer that gives the same value, and it is read as this value from a
solution too. So a field that copies an input in the input's own kind comes to what the input does,
and never finds it to be of the wrong type. -/
theorem InputSpec.parse_agrees (spec : InputSpec) :
    (∀ raw v, spec.parse raw = .ok v →
      spec.kind.valueKind.canonicalize v = .ok v ∧
      spec.parse (spec.kind.valueKind.encode v) = .ok v ∧
      spec.kind.valueKind.decode (spec.kind.valueKind.encode v) = .ok v) ∧
    ∀ (name key qualified : String) (scope : Scope),
      scope.inputs.spec? (scope.qualify key) = some spec →
      (Line.echo name spec.kind.valueKind key).evaluate qualified scope =
        Compute.input key scope ∧
      ∀ field label found, (Line.echo name spec.kind.valueKind key).evaluate qualified scope ≠
        .error (.fatal (.wrongType field label found)) := by
  constructor
  · intro raw v h
    have hreads := readsAs_of_parse h
    have ht := Text.trim_trim raw
    obtain ⟨htrim, hagain⟩ := hreads.encode ht
    rw [← htrim] at hagain
    exact ⟨(hreads.keeps ht).canonicalize, parse_of_readsAs hagain, hreads.decode_encode ht⟩
  · intro name key qualified scope hspec
    rw [Line.evaluate_echo hspec]
    exact ⟨rfl, fun field label found => InputStore.parse_ne_wrongType⟩

/-- A number with dashes in it, which is kept and written without them. -/
theorem InputSpec.parse_agrees_dashes :
    InputSpec.parse ⟨"ssn", .ssn, ""⟩ "123456789" = .ok (.text "123456789") ∧
    (Line.echo "1" .ssn "ssn").evaluate "a.1" ⟨⟨"a", .empty⟩,
      (InputStore.ofSections (Sections.empty.set "a" "ssn" " 123-45-6789")).addSpecs
        [("a.ssn", ⟨"ssn", .ssn, ""⟩)]⟩ = .ok (.text "123456789") := by
  obtain ⟨hread, hecho⟩ := parse_agrees ⟨"ssn", .ssn, ""⟩
  obtain ⟨-, hparse, -⟩ := hread " 123-45-6789" (.text "123456789") (by decide +kernel)
  refine ⟨hparse, ?_⟩
  have hcopy := (hecho "1" "ssn" "a.1" ⟨⟨"a", .empty⟩,
    (InputStore.ofSections (Sections.empty.set "a" "ssn" " 123-45-6789")).addSpecs
      [("a.ssn", ⟨"ssn", .ssn, ""⟩)]⟩ rfl).1
  exact hcopy.trans (by decide +kernel)

end TaxReturn
