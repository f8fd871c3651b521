import TaxReturn.Proofs.Ranges
import TaxReturn.Proofs.Solver.Soundness
import TaxReturn.Proofs.Year2023.Reads
import TaxReturn.Proofs.Year2023.Typing

/-! The amounts on statements are in dollars and cents and not larger than what is read, or, for the
taxable interest, than two such amounts together. -/
namespace TaxReturn.Year2023

open Compute Line Solver

variable {form : Form} {name key n base q : String} {v : Value} {d : Decimal} {a : Scope}
  {s : Solver} {given : Sections} {rank : String → ℕ}

/-- The amount of a field is one that is read, in dollars and cents. -/
def Copied (form : Form) (field : Field) : Prop :=
  ∀ a : Scope, a.Fits library form → ∀ n v d, field.evaluate n a = .ok v → v.asDecimal? = some d →
    d.scale = 2 ∧ d.magnitude ≤ Decimal.maxAmount * Decimal.tenTo 2

theorem copied_text : Copied form (echo name .text key) := by
  intro a _ n v d hv hd
  obtain ⟨w, -, hk⟩ := Field.evaluate_eq_ok.mp hv
  have hholds : ValueKind.text.holds v := ValueKind.holds_of_canonicalize hk
  cases v <;> cases hholds
  cases hd

theorem copied_money (h : form.asks (· == .float) key) : Copied form (echoMoney name key) := by
  intro a ha n v d hv hd
  obtain ⟨w, hw, hk⟩ := Field.evaluate_eq_ok.mp hv
  obtain ⟨e, rfl, he⟩ := exists_amount_of_input ha h hw
  cases hk
  cases hd
  exact Decimal.fixPlaces_two he

theorem copied_statements :
    (∀ field ∈ wageStatement.fields, Copied wageStatement field) ∧
    (∀ field ∈ interestStatement.fields, field.name ≠ "taxable" → Copied interestStatement field) ∧
    ∀ field ∈ governmentStatement.fields, Copied governmentStatement field := by
  simp only [Form.fields, wageStatement, interestStatement, governmentStatement,
    List.nil_append, List.forall_mem_cons]
  exact ⟨⟨copied_text, copied_money (by decide), copied_money (by decide), by simp⟩,
    ⟨fun _ => copied_text, fun _ => copied_money (by decide), fun _ => copied_money (by decide),
      fun _ => copied_money (by decide), fun _ => copied_money (by decide),
      fun _ => copied_money (by decide), fun h => absurd rfl h, by simp⟩,
    copied_text, copied_money (by decide), copied_money (by decide), by simp⟩

/-- An amount on a statement. -/
def Stated (d : Decimal) : Prop :=
  d.scale = 2 ∧ d.magnitude ≤ 2 * (Decimal.maxAmount * Decimal.tenTo 2)

/-- Two amounts that are read add up to one that can be stated. -/
theorem stated_of_add {x y z : Decimal}
    (hx : x.scale = 2 ∧ x.magnitude ≤ Decimal.maxAmount * Decimal.tenTo 2)
    (hy : y.scale = 2 ∧ y.magnitude ≤ Decimal.maxAmount * Decimal.tenTo 2)
    (hz : x.add? y = some z) : Stated (z.fixPlaces 2) := by
  have hlimit : 2 * (Decimal.maxAmount * Decimal.tenTo 2) < Decimal.limit := by decide
  obtain ⟨z', hz', hs, hu, -⟩ := Decimal.exists_add? (hy.1.trans hx.1.symm) (by omega)
  rw [hz] at hz'
  cases hz'
  have hm := Decimal.magnitude_le_of_units hu
  rw [Decimal.fixPlaces_of_scale (hs.trans hx.1)]
  exact ⟨hs.trans hx.1, by omega⟩

section committed

variable {name : FormName} (hin : InOrder library given rank s)
  (hcommitted : ∀ f v, s.values.get? f = some v → library.Evaluates s.inputs s.values f (.ok v))
  (hq : q ∈ s.forms)

include hin hcommitted hq

/-- What is committed for a line of an instance was evaluated there. -/
theorem exists_evaluated (hi : library.instantiate q = .ok (name, form))
    (hv : s.values.get? (q ++ "." ++ base) = some v) :
    ∃ field, form.field? base = some field ∧
      Scope.Fits library form ⟨⟨q, s.values⟩, s.inputs⟩ ∧
      field.evaluate (q ++ "." ++ base) ⟨⟨q, s.values⟩, s.inputs⟩ = .ok v := by
  obtain ⟨q', base', name', form', field, hs, hi', hb, he⟩ := hcommitted _ v hv
  rw [FormName.split_of_parse (Library.instantiate_eq_ok hi).1] at hs
  cases hs
  rw [hi] at hi'
  cases hi'
  exact ⟨field, hb, ⟨⟨name, hi⟩, hin.registered.knows hq, hin.typed⟩, he⟩

theorem copied_of_committed (hi : library.instantiate q = .ok (name, form))
    (h : ∀ field ∈ form.fields, field.name = base → Copied form field)
    (hv : s.values.get? (q ++ "." ++ base) = some v) (hd : v.asDecimal? = some d) :
    d.scale = 2 ∧ d.magnitude ≤ Decimal.maxAmount * Decimal.tenTo 2 := by
  obtain ⟨field, hb, ha, he⟩ := exists_evaluated hin hcommitted hq hi hv
  have hname : field.name = base := by simpa using List.find?_some hb
  exact h field (List.mem_of_find?_eq_some hb) hname _ ha _ v d he hd

/-- The taxable interest is the sum of two lines that are copied. -/
theorem stated_taxable (hi : library.instantiate q = .ok (name, interestStatement))
    (hv : s.values.get? (q ++ "." ++ "taxable") = some v) (hd : v.asDecimal? = some d) :
    Stated d := by
  -- Both lines are on the instance itself, and neither of them is the sum.
  have hline : ∀ {key e}, Name.split key = none → key ≠ "taxable" →
      line key ⟨⟨q, s.values⟩, s.inputs⟩ = .ok e →
      e.scale = 2 ∧ e.magnitude ≤ Decimal.maxAmount * Decimal.tenTo 2 := by
    intro key e hs hne he
    obtain ⟨w, hw, he⟩ := bind_eq_ok.mp he
    have hw : s.values.get? (Name.scopeTo q key) = some w := ValueStore.get_eq_ok.mp hw
    rw [Name.scopeTo_of_split_none hs] at hw
    cases hdec : w.asDecimal? with
    | none =>
      simp only [hdec] at he
      cases he
    | some e' =>
      simp only [hdec] at he
      cases he
      refine copied_of_committed hin hcommitted hq hi (fun field hm hname => ?_) hw hdec
      exact copied_statements.2.1 field hm (hname ▸ hne)
  obtain ⟨field, hb, -, he⟩ := exists_evaluated hin hcommitted hq hi hv
  have hfield : interestStatement.field? "taxable" = some (money "taxable" do
      let interest ← line "interest"
      let treasury ← line "treasury_interest"
      plus "1099-int.taxable" interest treasury) := rfl
  rw [hfield] at hb
  cases hb
  obtain ⟨w, hw, hk⟩ := Field.evaluate_eq_ok.mp he
  obtain ⟨z, hz, hw⟩ := bind_eq_ok.mp hw
  obtain ⟨x, hx, hz⟩ := bind_eq_ok.mp hz
  obtain ⟨y, hy, hz⟩ := bind_eq_ok.mp hz
  cases hw
  cases hk
  cases hd
  exact stated_of_add (hline (by decide) (by decide) hx) (hline (by decide) (by decide) hy)
    (orOverflow_eq_ok.mp hz)

/-- Whatever is committed for a statement, its amounts are those of statements. -/
theorem stated_of_committed (hi : library.instantiate q = .ok (name, form))
    (hf : form.name ∈ statements) (hv : s.values.get? (q ++ "." ++ base) = some v)
    (hd : v.asDecimal? = some d) : Stated d := by
  have hwiden : d.scale = 2 ∧ d.magnitude ≤ Decimal.maxAmount * Decimal.tenTo 2 → Stated d :=
    fun h => ⟨h.1, by omega⟩
  have hm := Library.mem_forms_of_instantiate hi
  simp only [library, List.mem_cons, List.not_mem_nil, or_false] at hm
  rcases hm with rfl | rfl | rfl | rfl | rfl | rfl | rfl
  case inr.inr.inr.inr.inl =>
    exact hwiden (copied_of_committed hin hcommitted hq hi
      (fun field hm _ => copied_statements.1 field hm) hv hd)
  case inr.inr.inr.inr.inr.inl =>
    by_cases hb : base = "taxable"
    · subst hb
      exact stated_taxable hin hcommitted hq hi hv hd
    · exact hwiden (copied_of_committed hin hcommitted hq hi
        (fun field hm hname => copied_statements.2.1 field hm (hname ▸ hb)) hv hd)
  case inr.inr.inr.inr.inr.inr =>
    exact hwiden (copied_of_committed hin hcommitted hq hi
      (fun field hm _ => copied_statements.2.2 field hm) hv hd)
  all_goals exact absurd hf (by decide)

end committed

end TaxReturn.Year2023
