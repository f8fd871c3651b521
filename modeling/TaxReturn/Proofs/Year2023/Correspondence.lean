import TaxReturn.Proofs.Correspondence
import TaxReturn.Proofs.Year2023.Reads

/-! The lines of the forms of 2023 correspond when the statements of a return go by other tags. The
return and its schedules take totals over the statements, and no other form does. -/
namespace TaxReturn.Year2023

open Compute Line FilingStatus Correspondence

/-- The forms that take totals over the statements, directly or by way of others. -/
def returnForms : List String := ["1040", "1040_s1", "1040_sb"]

variable {C : Correspondence} {form : Form} {a b : Scope} {P : Prop} {kind : ValueKind}
  {name key what minuend subtrahend : String} {lines : List String}

section

variable (hC : C.singles = returnForms)

include hC

theorem sees (h : form.sees returnForms key) : form.sees C.singles key := hC ▸ h

theorem sees_all (h : ∀ key ∈ lines, form.sees returnForms key) :
    ∀ key ∈ lines, form.sees C.singles key := hC ▸ h

theorem mem_singles (h : form.name ∈ returnForms) : form.name ∈ C.singles := hC ▸ h

end

/-- No tax is figured on nothing, whatever its sign. -/
theorem figureTax_zero {income : Decimal} {status : FilingStatus} (h : income.magnitude = 0) :
    figureTax income status = some 0 := by
  have hpos : (0 : ℤ) < Decimal.tenTo income.scale := by
    exact_mod_cast Decimal.tenTo_pos income.scale
  have hunits := Decimal.units_eq_zero h
  have hlimit : ¬ tableLimit ≤ income := by
    have htable : tableLimit.units = 100000 := rfl
    rw [Decimal.le_iff_units, hunits, htable]
    omega
  have hmidpoint : income < .ofNat 5 := by
    have hfive : (Decimal.ofNat 5).units = 5 := rfl
    rw [Decimal.lt_iff_units, hunits, hfive]
    omega
  simp only [figureTax, hlimit, if_false, tableMidpoint, hmidpoint, if_true]

theorem figureTax_alike {income income' : Decimal} {status : FilingStatus}
    (h : income.Alike P income') : figureTax income' status = figureTax income status := by
  cases h with
  | same => rfl
  | zero _ hz hz' _ => rw [figureTax_zero hz, figureTax_zero hz']

section lines

variable (hC : C.singles = returnForms) (h : C.Mirrors form a b)

include h in
theorem reflects_onReturn (hs : form.sees C.singles "1040.filing_status") :
    C.Reflects a b onReturn onReturn Eq := by
  refine (h.choice hs).bind fun key _ he => ?_
  subst he
  cases ofKey (key.getD "") with
  | ok status => exact .pure rfl
  | error e => exact nofun

include h in
theorem reflects_remainder (hm : form.sees C.singles minuend)
    (hs : form.sees C.singles subtrahend) :
    C.Reflects a b (remainder what minuend subtrahend) (remainder what minuend subtrahend)
      fun d e => d.Alike (C.Loose a.form) e :=
  (reflects_difference h hm hs).map fun _ _ hde => hde.nonNegative

include hC

theorem reflected_ofSpouse (hk : Name.split name = none) :
    C.Reflected individualReturn (ofSpouse name kind) := by
  intro a b h
  refine (reflects_onReturn h (sees hC (by decide))).bind fun status _ he => ?_
  subst he
  exact Reflects.ite Iff.rfl (h.copy hk) (.pure .same)

theorem reflected_ofDeposit (hk : Name.split key = none) :
    C.Reflected individualReturn (ofDeposit name kind key) := by
  intro a b h
  refine (h.line (sees hC (by decide))).bind fun d e hde => ?_
  exact Reflects.ite (hde.le_iff .same) (.pure .same) (h.copy hk)

end lines

section individualReturn

variable (hC : C.singles = returnForms) (h : C.Mirrors individualReturn a b)

include hC h

theorem reflects_taxableInterest : C.Reflects a b taxableInterest taxableInterest
    fun v w => v.Alike (C.Loose a.form) w := by
  refine (h.totals (mem_singles hC (by decide))).bind fun d e hde => ?_
  refine Reflects.ite (Decimal.Alike.lt_iff .same hde) (h.value (sees hC (by decide))) ?_
  exact .pure (.number rfl hde)

theorem reflects_deductions :
    C.Reflects a b deductions deductions fun d e => d.Alike (C.Loose a.form) e := by
  refine (h.flag (by decide)).bind fun itemize _ he => ?_
  subst he
  refine Reflects.ite Iff.rfl .unsupported ?_
  refine (reflects_onReturn h (sees hC (by decide))).map fun status _ he => ?_
  subst he
  exact .same

theorem reflects_incomeTax :
    C.Reflects a b incomeTax incomeTax fun d e => d.Alike (C.Loose a.form) e := by
  refine (reflects_onReturn h (sees hC (by decide))).bind fun status _ he => ?_
  subst he
  refine (h.line (sees hC (by decide))).bind fun d e hde => ?_
  exact .orOverflow fun tax htax => ⟨tax, (figureTax_alike hde).trans htax, .same⟩

omit hC in
theorem reflects_dependentCredit :
    C.Reflects a b dependentCredit dependentCredit fun d e => d.Alike (C.Loose a.form) e := by
  refine (h.number (by decide)).bind fun dependents _ he => ?_
  subst he
  exact Reflects.ite Iff.rfl .unsupported (.pure .same)

theorem reflects_medicareTax :
    C.Reflects a b medicareTax medicareTax fun d e => d.Alike (C.Loose a.form) e := by
  refine (reflects_onReturn h (sees hC (by decide))).bind fun status _ he => ?_
  subst he
  refine (h.line (sees hC (by decide))).bind fun d e hde => ?_
  exact Reflects.ite (Decimal.Alike.lt_iff .same hde) .unsupported (.pure .same)

theorem reflects_earnedIncomeCredit :
    C.Reflects a b earnedIncomeCredit earnedIncomeCredit fun d e => d.Alike (C.Loose a.form) e := by
  refine (reflects_onReturn h (sees hC (by decide))).bind fun status _ he => ?_
  subst he
  refine (h.line (sees hC (by decide))).bind fun d e hde => ?_
  refine Reflects.ite (or_congr_right (hde.le_iff .same)) (.pure .same) ?_
  refine (h.number (by decide)).bind fun dependents _ he => ?_
  subst he
  exact Reflects.ite (hde.lt_iff .same) .unsupported (.pure .same)

theorem reflects_estimatedTaxPenalty :
    C.Reflects a b estimatedTaxPenalty estimatedTaxPenalty
      fun d e => d.Alike (C.Loose a.form) e := by
  refine (h.line (sees hC (by decide))).bind fun d e hde => ?_
  exact Reflects.ite (Decimal.Alike.lt_iff .same hde) .unsupported (.pure .same)

end individualReturn

section scheduleOne

variable (hC : C.singles = returnForms) (h : C.Mirrors scheduleOne a b)

include h

theorem reflects_alimonyPaid :
    C.Reflects a b alimonyPaid alimonyPaid fun d e => d.Alike (C.Loose a.form) e := by
  refine (h.amount (by decide)).bind fun paid _ he => ?_
  subst he
  refine Reflects.ite Iff.rfl (.pure .same) ?_
  refine (h.flag (by decide)).bind fun old _ he => ?_
  subst he
  exact Reflects.ite Iff.rfl (.pure .same) (.pure .same)

include hC

theorem reflects_alimonyRecipient : C.Reflects a b alimonyRecipient alimonyRecipient
    fun v w => v.Alike (C.Loose a.form) w := by
  refine (h.line (sees hC (by decide))).bind fun d e hde => ?_
  exact Reflects.ite (by rw [hde.isZero_eq]) (.pure .same) (h.copy (by decide))

end scheduleOne

section healthSavings

variable (hC : C.singles = returnForms) (h : C.Mirrors healthSavings a b)

include h

theorem reflects_catchUp :
    C.Reflects a b catchUp catchUp fun d e => d.Alike (C.Loose a.form) e :=
  (h.flag (by decide)).map fun _ _ he => he ▸ .same

theorem reflects_distributions :
    C.Reflects a b distributions distributions fun d e => d.Alike (C.Loose a.form) e := by
  refine (h.amount (by decide)).bind fun paid _ he => ?_
  subst he
  exact Reflects.ite Iff.rfl (.pure .same) .unsupported

include hC

theorem reflects_coverageLimit :
    C.Reflects a b coverageLimit coverageLimit fun d e => d.Alike (C.Loose a.form) e :=
  (h.choice (sees hC (by decide))).map fun _ _ he => he ▸ .same

theorem reflects_deduction :
    C.Reflects a b deduction deduction fun d e => d.Alike (C.Loose a.form) e := by
  refine (h.line (sees hC (by decide))).bind fun d e hde => ?_
  exact (h.line (sees hC (by decide))).map fun _ _ hde' => hde.min hde'

end healthSavings

section forms

variable (hC : C.singles = returnForms)

include hC

theorem reflected_statements :
    (∀ field ∈ wageStatement.fields, C.Reflected wageStatement field) ∧
    (∀ field ∈ interestStatement.fields, C.Reflected interestStatement field) ∧
    ∀ field ∈ governmentStatement.fields, C.Reflected governmentStatement field := by
  simp only [Form.fields, wageStatement, interestStatement, governmentStatement,
    List.nil_append, List.forall_mem_cons]
  refine ⟨⟨reflected_echo (by decide), reflected_echo (by decide), reflected_echo (by decide),
      by simp⟩,
    ⟨reflected_echo (by decide), reflected_echo (by decide), reflected_echo (by decide),
      reflected_echo (by decide), reflected_echo (by decide), reflected_echo (by decide), ?_,
      by simp⟩,
    reflected_echo (by decide), reflected_echo (by decide), reflected_echo (by decide), by simp⟩
  refine reflected_money fun a b h => ?_
  refine (h.line (sees hC (by decide))).bind fun d e hde => ?_
  refine (h.line (sees hC (by decide))).bind fun d' e' hde' => ?_
  exact .orOverflow fun _ hadd => hde.add? hde' hadd

theorem reflected_scheduleOne :
    ∀ field ∈ scheduleOne.fields, C.Reflected scheduleOne field := by
  have hs : scheduleOne.name ∈ C.singles := mem_singles hC (by decide)
  simp only [Form.fields, scheduleOne, List.append_nil, List.forall_mem_cons]
  exact ⟨reflected_totalOf hs, reflected_totalOf hs, reflected_echo (by decide),
    reflected_sumOf (sees_all hC (by decide)), reflected_sumOf (sees_all hC (by decide)),
    reflected_totalOf hs, reflected_totalOf hs, reflected_money fun _ _ => reflects_alimonyPaid,
    fun _ _ => reflects_alimonyRecipient hC, reflected_echo (by decide),
    reflected_sumOf (sees_all hC (by decide)), reflected_sumOf (sees_all hC (by decide)), by simp⟩

theorem reflected_scheduleB :
    ∀ field ∈ scheduleB.fields, C.Reflected scheduleB field := by
  have hs : scheduleB.name ∈ C.singles := mem_singles hC (by decide)
  simp only [Form.fields, scheduleB, List.append_nil, List.forall_mem_cons]
  exact ⟨reflected_totalOf hs, reflected_sumOf (sees_all hC (by decide)),
    reflected_money fun _ _ _ => .pure .same,
    reflected_money fun _ _ h =>
      reflects_difference h (sees hC (by decide)) (sees hC (by decide)),
    reflected_mustBeNo (by decide), reflected_mustBeNo (by decide), by simp⟩

theorem reflected_healthSavings :
    ∀ field ∈ healthSavings.fields, C.Reflected healthSavings field := by
  simp only [Form.fields, healthSavings, List.cons_append, List.nil_append, List.forall_mem_cons]
  exact ⟨reflected_money fun _ _ => reflects_deduction hC,
    reflected_money fun _ _ => reflects_distributions, reflected_echo (by decide),
    reflected_echo (by decide), reflected_money fun _ _ => reflects_coverageLimit hC,
    reflected_sumOf (sees_all hC (by decide)), reflected_money fun _ _ => reflects_catchUp,
    reflected_sumOf (sees_all hC (by decide)), reflected_echo (by decide),
    reflected_sumOf (sees_all hC (by decide)),
    reflected_money fun _ _ h => (reflects_difference h (sees hC (by decide))
      (sees hC (by decide))).map fun _ _ hde => hde.nonNegative, by simp⟩

theorem reflected_individualReturn :
    ∀ field ∈ individualReturn.fields, C.Reflected individualReturn field := by
  have hs : individualReturn.name ∈ C.singles := mem_singles hC (by decide)
  simp only [Form.fields, individualReturn, List.append_nil, List.forall_mem_cons]
  exact ⟨reflected_echo (by decide), reflected_echo (by decide), reflected_echo (by decide),
    reflected_echo (by decide), reflected_ofSpouse hC (by decide),
    reflected_ofSpouse hC (by decide), reflected_ofSpouse hC (by decide),
    reflected_mustBeNo (by decide), reflected_totalOf hs,
    reflected_sumOf (sees_all hC (by decide)), reflected_totalOf hs,
    fun _ _ => reflects_taxableInterest hC, reflected_carry (sees hC (by decide)),
    reflected_sumOf (sees_all hC (by decide)), reflected_carry (sees hC (by decide)),
    reflected_money fun _ _ h =>
      reflects_difference h (sees hC (by decide)) (sees hC (by decide)),
    reflected_money fun _ _ => reflects_deductions hC,
    reflected_money fun _ _ _ => .pure .same, reflected_sumOf (sees_all hC (by decide)),
    reflected_money fun _ _ h =>
      reflects_remainder h (sees hC (by decide)) (sees hC (by decide)),
    reflected_money fun _ _ => reflects_incomeTax hC, reflected_sumOf (sees_all hC (by decide)),
    reflected_money fun _ _ => reflects_dependentCredit,
    reflected_sumOf (sees_all hC (by decide)),
    reflected_money fun _ _ h =>
      reflects_remainder h (sees hC (by decide)) (sees hC (by decide)),
    reflected_money fun _ _ => reflects_medicareTax hC, reflected_sumOf (sees_all hC (by decide)),
    reflected_totalOf hs, reflected_totalOf hs, reflected_sumOf (sees_all hC (by decide)),
    reflected_money fun _ _ => reflects_earnedIncomeCredit hC,
    reflected_sumOf (sees_all hC (by decide)), reflected_sumOf (sees_all hC (by decide)),
    reflected_money fun _ _ h =>
      reflects_remainder h (sees hC (by decide)) (sees hC (by decide)),
    reflected_sumOf (sees_all hC (by decide)), reflected_ofDeposit hC (by decide),
    reflected_ofDeposit hC (by decide), reflected_ofDeposit hC (by decide),
    reflected_money fun _ _ h =>
      reflects_remainder h (sees hC (by decide)) (sees hC (by decide)),
    reflected_money fun _ _ => reflects_estimatedTaxPenalty hC, by simp⟩

/-- Every field of 2023 has corresponding values in twins. -/
theorem reflected_library :
    ∀ form ∈ library.forms, ∀ field ∈ form.fields, C.Reflected form field := by
  simp only [library, List.forall_mem_cons]
  exact ⟨reflected_individualReturn hC, reflected_scheduleOne hC, reflected_scheduleB hC,
    reflected_healthSavings hC, (reflected_statements hC).1, (reflected_statements hC).2.1,
    (reflected_statements hC).2.2, by simp⟩

end forms

end TaxReturn.Year2023
