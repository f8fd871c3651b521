import TaxReturn.Proofs.Typing
import TaxReturn.Year2023.Library

/-! The forms of 2023 are closed and well-typed: every line reads inputs of its own form and lines
that there are, and each of them as the type of what it is. -/
namespace TaxReturn.Year2023

open Compute Line FilingStatus

variable {form : Form} {a : Scope} {name key what minuend subtrahend : String} {kind : ValueKind}

/-- The status that is committed is one of the statuses, or none. -/
theorem gives_status (ha : a.Fits library form) :
    (asChoice value "1040.filing_status").Gives library a fun key =>
      a.values.get? "1040.filing_status" = some (.choice key) ∧
        ∀ k ∈ key, k ∈ options.map (·.key) := by
  have hread : (value "1040.filing_status").Gives library a fun v => ∃ kind : ValueKind,
      (kind == .enumeration (options.map (·.key))) ∧ kind.holds v := gives_value ha rfl
  refine hread.committed.typedAs ?_
  rintro v ⟨⟨kind, hk, hv⟩, hget⟩
  cases beq_iff_eq.mp hk
  have hq : a.qualify "1040.filing_status" = "1040.filing_status" := rfl
  cases v with
  | choice key =>
    refine ⟨key, rfl, hq ▸ hget, ?_⟩
    rintro k ⟨⟩
    exact of_decide_eq_true hv
  | _ => cases hv

theorem gives_onReturn (ha : a.Fits library form) : onReturn.Gives library a fun _ => True := by
  refine (gives_status ha).bind fun key hkey => ?_
  obtain ⟨hget, hkey⟩ := hkey
  unfold ofKey
  cases hfind : all.find? fun s => s.key == key.getD "" with
  | some status => exact gives_pure trivial
  | none =>
    cases key with
    | none => exact .unreadable (.inr hget)
    | some k =>
      have hk : k ∈ all.map (·.key) := by simpa [options] using hkey k rfl
      obtain ⟨status, hm, rfl⟩ := List.mem_map.mp hk
      exact absurd (List.find?_eq_none.mp hfind status hm) (by simp)

theorem orderly_ofSpouse (h : form.asks kind.covers name) :
    (ofSpouse name kind).Orderly library form := by
  intro a ha
  refine (gives_onReturn ha).bind fun status _ => ?_
  exact Gives.ite (gives_copy ha h) (gives_pure ValueKind.accepts_empty)

theorem orderly_ofDeposit (h : form.asks kind.covers key)
    (hl : form.leads library ValueKind.isAmount "35a") :
    (ofDeposit name kind key).Orderly library form := by
  intro a ha
  refine (gives_line ha hl).bind fun refund _ => ?_
  exact Gives.ite (gives_pure ValueKind.accepts_empty) (gives_copy ha h)

theorem gives_remainder (ha : a.Fits library form)
    (h : form.leads library ValueKind.isAmount minuend)
    (h' : form.leads library ValueKind.isAmount subtrahend) :
    (remainder what minuend subtrahend).Gives library a fun _ => True :=
  (gives_difference ha h h').map fun _ _ => trivial

section individualReturn

variable (ha : a.Fits library individualReturn)

include ha

theorem gives_taxableInterest :
    taxableInterest.Gives library a fun v => (ValueKind.decimal 2).accepts v := by
  refine (gives_sumInstances ha (by decide)).bind fun direct _ => ?_
  exact Gives.ite (gives_carried ha (by decide)) (gives_pure ValueKind.accepts_number)

theorem gives_deductions : deductions.Gives library a fun _ => True := by
  refine (gives_flag ha (by decide)).bind fun itemize _ => ?_
  exact gives_unsupported.ite ((gives_onReturn ha).map fun _ _ => trivial)

theorem gives_incomeTax : incomeTax.Gives library a fun _ => True := by
  refine (gives_onReturn ha).bind fun status _ => ?_
  refine (gives_line ha (by decide)).bind fun income _ => ?_
  exact gives_orOverflow

theorem gives_dependentCredit : dependentCredit.Gives library a fun _ => True := by
  refine (gives_number ha (by decide)).bind fun dependents _ => ?_
  exact gives_unsupported.ite (gives_pure trivial)

theorem gives_medicareTax : medicareTax.Gives library a fun _ => True := by
  refine (gives_onReturn ha).bind fun status _ => ?_
  refine (gives_line ha (by decide)).bind fun wages _ => ?_
  exact gives_unsupported.ite (gives_pure trivial)

theorem gives_earnedIncomeCredit : earnedIncomeCredit.Gives library a fun _ => True := by
  refine (gives_onReturn ha).bind fun status _ => ?_
  refine (gives_line ha (by decide)).bind fun income _ => ?_
  refine (gives_pure trivial).ite ?_
  refine (gives_number ha (by decide)).bind fun dependents _ => ?_
  exact gives_unsupported.ite (gives_pure trivial)

theorem gives_estimatedTaxPenalty : estimatedTaxPenalty.Gives library a fun _ => True := by
  refine (gives_line ha (by decide)).bind fun owed _ => ?_
  exact gives_unsupported.ite (gives_pure trivial)

end individualReturn

theorem gives_alimonyPaid (ha : a.Fits library scheduleOne) :
    alimonyPaid.Gives library a fun _ => True := by
  refine (gives_amount ha (by decide)).bind fun paid _ => ?_
  refine (gives_pure trivial).ite ?_
  refine (gives_flag ha (by decide)).bind fun old _ => ?_
  exact (gives_pure trivial).ite (gives_pure trivial)

theorem gives_alimonyRecipient (ha : a.Fits library scheduleOne) :
    alimonyRecipient.Gives library a fun v => ValueKind.ssn.accepts v := by
  refine (gives_line ha (by decide)).bind fun paid _ => ?_
  exact Gives.ite (gives_pure ValueKind.accepts_empty) (gives_copy ha (by decide))

theorem gives_coverageLimit (ha : a.Fits library healthSavings) :
    coverageLimit.Gives library a fun _ => True :=
  (gives_choice ha (by decide)).map fun _ _ => trivial

theorem gives_catchUp (ha : a.Fits library healthSavings) :
    catchUp.Gives library a fun _ => True :=
  (gives_flag ha (by decide)).map fun _ _ => trivial

theorem gives_deduction (ha : a.Fits library healthSavings) :
    deduction.Gives library a fun _ => True := by
  refine (gives_line ha (by decide)).bind fun contributed _ => ?_
  exact (gives_line ha (by decide)).map fun _ _ => trivial

theorem gives_distributions (ha : a.Fits library healthSavings) :
    distributions.Gives library a fun _ => True := by
  refine (gives_amount ha (by decide)).bind fun paid _ => ?_
  exact (gives_pure trivial).ite gives_unsupported

theorem orderly_statements :
    (∀ field ∈ wageStatement.fields, field.Orderly library wageStatement) ∧
    (∀ field ∈ interestStatement.fields, field.Orderly library interestStatement) ∧
    ∀ field ∈ governmentStatement.fields, field.Orderly library governmentStatement := by
  simp only [Form.fields, wageStatement, interestStatement, governmentStatement,
    List.nil_append, List.forall_mem_cons]
  refine ⟨⟨orderly_echo (by decide), orderly_echo (by decide), orderly_echo (by decide), by simp⟩,
    ⟨orderly_echo (by decide), orderly_echo (by decide), orderly_echo (by decide),
      orderly_echo (by decide), orderly_echo (by decide), orderly_echo (by decide), ?_, by simp⟩,
    orderly_echo (by decide), orderly_echo (by decide), orderly_echo (by decide), by simp⟩
  refine orderly_money fun a ha => ?_
  refine (gives_line ha (by decide)).bind fun interest _ => ?_
  refine (gives_line ha (by decide)).bind fun treasury _ => ?_
  exact gives_orOverflow

theorem orderly_scheduleOne : ∀ field ∈ scheduleOne.fields, field.Orderly library scheduleOne := by
  simp only [Form.fields, scheduleOne, List.append_nil, List.forall_mem_cons]
  exact ⟨orderly_totalOf (by decide), orderly_totalOf (by decide), orderly_echo (by decide),
    orderly_sumOf (by decide), orderly_sumOf (by decide), orderly_totalOf (by decide),
    orderly_totalOf (by decide), orderly_money fun _ => gives_alimonyPaid,
    fun _ => gives_alimonyRecipient, orderly_echo (by decide), orderly_sumOf (by decide),
    orderly_sumOf (by decide), by simp⟩

theorem orderly_scheduleB : ∀ field ∈ scheduleB.fields, field.Orderly library scheduleB := by
  simp only [Form.fields, scheduleB, List.append_nil, List.forall_mem_cons]
  exact ⟨orderly_totalOf (by decide), orderly_sumOf (by decide),
    orderly_money fun _ _ => gives_pure trivial,
    orderly_money fun _ ha => gives_difference ha (by decide) (by decide),
    orderly_mustBeNo (by decide), orderly_mustBeNo (by decide), by simp⟩

theorem orderly_healthSavings :
    ∀ field ∈ healthSavings.fields, field.Orderly library healthSavings := by
  simp only [Form.fields, healthSavings, List.cons_append, List.nil_append, List.forall_mem_cons]
  exact ⟨orderly_money fun _ => gives_deduction, orderly_money fun _ => gives_distributions,
    orderly_echo (by decide), orderly_echo (by decide), orderly_money fun _ => gives_coverageLimit,
    orderly_sumOf (by decide), orderly_money fun _ => gives_catchUp, orderly_sumOf (by decide),
    orderly_echo (by decide), orderly_sumOf (by decide),
    orderly_money fun _ ha =>
      (gives_difference ha (by decide) (by decide)).map fun _ _ => trivial, by simp⟩

theorem orderly_individualReturn :
    ∀ field ∈ individualReturn.fields, field.Orderly library individualReturn := by
  simp only [Form.fields, individualReturn, List.append_nil, List.forall_mem_cons]
  exact ⟨orderly_echo (by decide), orderly_echo (by decide), orderly_echo (by decide),
    orderly_echo (by decide), orderly_ofSpouse (by decide), orderly_ofSpouse (by decide),
    orderly_ofSpouse (by decide), orderly_mustBeNo (by decide),
    orderly_totalOf (by decide), orderly_sumOf (by decide), orderly_totalOf (by decide),
    fun _ => gives_taxableInterest, orderly_carry (by decide), orderly_sumOf (by decide),
    orderly_carry (by decide),
    orderly_money fun _ ha => gives_difference ha (by decide) (by decide),
    orderly_money fun _ => gives_deductions, orderly_money fun _ _ => gives_pure trivial,
    orderly_sumOf (by decide),
    orderly_money fun _ ha => gives_remainder ha (by decide) (by decide),
    orderly_money fun _ => gives_incomeTax, orderly_sumOf (by decide),
    orderly_money fun _ => gives_dependentCredit, orderly_sumOf (by decide),
    orderly_money fun _ ha => gives_remainder ha (by decide) (by decide),
    orderly_money fun _ => gives_medicareTax, orderly_sumOf (by decide),
    orderly_totalOf (by decide), orderly_totalOf (by decide), orderly_sumOf (by decide),
    orderly_money fun _ => gives_earnedIncomeCredit, orderly_sumOf (by decide),
    orderly_sumOf (by decide),
    orderly_money fun _ ha => gives_remainder ha (by decide) (by decide),
    orderly_sumOf (by decide), orderly_ofDeposit (by decide) (by decide),
    orderly_ofDeposit (by decide) (by decide), orderly_ofDeposit (by decide) (by decide),
    orderly_money fun _ ha => gives_remainder ha (by decide) (by decide),
    orderly_money fun _ => gives_estimatedTaxPenalty, by simp⟩

/-- Every field of 2023 can be computed wherever the stores fit. -/
theorem orderly_library :
    ∀ form ∈ library.forms, ∀ field ∈ form.fields, field.Orderly library form := by
  simp only [library, List.forall_mem_cons]
  exact ⟨orderly_individualReturn, orderly_scheduleOne, orderly_scheduleB, orderly_healthSavings,
    orderly_statements.1, orderly_statements.2.1, orderly_statements.2.2, by simp⟩

end TaxReturn.Year2023
