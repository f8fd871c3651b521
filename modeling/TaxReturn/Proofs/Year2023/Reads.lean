import TaxReturn.Proofs.Reads
import TaxReturn.Year2023.Library

/-! What the lines of the forms of 2023 read. Every line reads its own inputs and lines that stand
before it in one fixed order, so no line can come to wait for itself. -/
namespace TaxReturn.Year2023

open Line FilingStatus

/-- The lines of all forms, each after those that it may read. -/
def lineOrder : List (String × String) :=
  [("w-2", "employer"), ("w-2", "wages"), ("w-2", "withholding"),
    ("1099-int", "payer"), ("1099-int", "interest"), ("1099-int", "penalty"),
    ("1099-int", "treasury_interest"), ("1099-int", "withholding"), ("1099-int", "tax_exempt"),
    ("1099-int", "taxable"),
    ("1099-g", "payer"), ("1099-g", "unemployment"), ("1099-g", "refund"),
    ("8889", "1"), ("8889", "2"), ("8889", "3"), ("8889", "6"), ("8889", "7"), ("8889", "8"),
    ("8889", "9"), ("8889", "11"), ("8889", "12"), ("8889", "13"), ("8889", "14a"),
    ("1040_s1", "1"), ("1040_s1", "7"), ("1040_s1", "8z"), ("1040_s1", "9"), ("1040_s1", "10"),
    ("1040_s1", "13"), ("1040_s1", "18"), ("1040_s1", "19a"), ("1040_s1", "19b"),
    ("1040_s1", "24z"), ("1040_s1", "25"), ("1040_s1", "26"),
    ("1040_sb", "1"), ("1040_sb", "2"), ("1040_sb", "3"), ("1040_sb", "4"), ("1040_sb", "7a"),
    ("1040_sb", "8"),
    ("1040", "first_name"), ("1040", "last_name"), ("1040", "ssn"), ("1040", "filing_status"),
    ("1040", "spouse_first_name"), ("1040", "spouse_last_name"), ("1040", "spouse_ssn"),
    ("1040", "virtual_currency"), ("1040", "1a"), ("1040", "1z"), ("1040", "2a"), ("1040", "2b"),
    ("1040", "8"), ("1040", "9"), ("1040", "10"), ("1040", "11"), ("1040", "12"), ("1040", "13"),
    ("1040", "14"), ("1040", "15"), ("1040", "16"), ("1040", "18"), ("1040", "19"), ("1040", "21"),
    ("1040", "22"), ("1040", "23"), ("1040", "24"), ("1040", "25a"), ("1040", "25b"),
    ("1040", "25d"), ("1040", "27"), ("1040", "32"), ("1040", "33"), ("1040", "34"),
    ("1040", "35a"), ("1040", "35b"), ("1040", "35c"), ("1040", "35d"), ("1040", "37"),
    ("1040", "38")]

/-- Where a line stands in the order. -/
def lineRank (line : String × String) : Nat := lineOrder.idxOf line

/-- The line that a key means in a form. -/
def lineOf (form key : String) : String × String := (Name.split key).getD (form, key)

/-- The forms of which there are as many as the inputs have sections for. -/
def statements : List String := ["w-2", "1099-int", "1099-g"]

/-- The forms whose instances are counted. -/
def counted : List String := "8889" :: statements

/-- What a line may read: inputs of its form; lines of its form, and of forms with one instance,
that stand before it; totals of lines that stand before it. Of the forms with several instances
only Form 8889 asks for anything by itself, and only line 13 of Schedule 1 reads it. The lines
there, but for the distributions, are never left out and read lines of the same kind. Only line 2b
of the return reads Schedule B from outside. -/
def Allowed (form : Form) (base : String) (r : Reads) : Prop :=
  (∀ key ∈ r.inputs, Name.split key = none ∧ ∃ input ∈ form.inputs, input.name = key) ∧
  (∀ key ∈ r.lines, ':' ∉ (lineOf form.name key).1.toList ∧
    lineRank (lineOf form.name key) < lineRank (form.name, base)) ∧
  (∀ t ∈ r.totals, lineRank t < lineRank (form.name, base) ∧
    (t.1 ∈ statements ∨ form.name = "1040_s1" ∧ base = "13")) ∧
  (form.name = "8889" → base ≠ "14a" → r.leaves = false ∧ r.totals = [] ∧
    ∀ key ∈ r.lines, Name.split key = none ∧ key ≠ "14a") ∧
  (form.name = "1040_s1" → base = "13" → r = { totals := [("8889", "13")] }) ∧
  (∀ key ∈ r.lines, ∀ line ∈ Name.split key, line.1 = "1040_sb" → form.name = "1040" ∧ base = "2b")

instance {form : Form} {base : String} {r : Reads} : Decidable (Allowed form base r) := by
  unfold Allowed
  infer_instance

theorem heeds_onReturn : onReturn.Heeds { lines := ["1040.filing_status"] } := by
  refine Compute.heeds_value.typed.bind (u := {}) fun key => ?_
  split
  · exact Compute.heeds_pure
  · exact Compute.heeds_fail

theorem heeds_ofSpouse {name : String} {kind : ValueKind} : (ofSpouse name kind).compute.Heeds
    { inputs := [name], lines := ["1040.filing_status"] } :=
  heeds_onReturn.bind (u := { inputs := [name] }) fun _ =>
    Compute.heeds_input.ite Compute.heeds_pure

theorem heeds_ofDeposit {name key : String} {kind : ValueKind} :
    (ofDeposit name kind key).compute.Heeds { inputs := [key], lines := ["35a"] } :=
  Compute.heeds_line.bind (u := { inputs := [key] }) fun _ =>
    Compute.heeds_pure.ite Compute.heeds_input

theorem heeds_taxableInterest : taxableInterest.Heeds
    { lines := ["1040_sb.4"], totals := [("1099-int", "taxable")] } :=
  Compute.heeds_sumInstances.bind (u := { lines := ["1040_sb.4"] }) fun _ =>
    Compute.heeds_value.ite Compute.heeds_pure

theorem heeds_deductions : deductions.Heeds
    { inputs := ["itemize"], lines := ["1040.filing_status"], leaves := true } :=
  Compute.heeds_input.typed.bind (u := { lines := ["1040.filing_status"], leaves := true })
    fun _ => Compute.heeds_unsupported.ite heeds_onReturn.map

theorem heeds_incomeTax : incomeTax.Heeds { lines := ["1040.filing_status", "15"] } :=
  heeds_onReturn.bind (u := { lines := ["15"] }) fun _ =>
    Compute.heeds_line.bind (u := {}) fun _ => Compute.heeds_orOverflow

theorem heeds_dependentCredit : dependentCredit.Heeds
    { inputs := ["dependents"], leaves := true } :=
  Compute.heeds_input.typed.bind (u := { leaves := true }) fun _ =>
    Compute.heeds_unsupported.ite Compute.heeds_pure

theorem heeds_medicareTax : medicareTax.Heeds
    { lines := ["1040.filing_status", "1a"], leaves := true } :=
  heeds_onReturn.bind (u := { lines := ["1a"], leaves := true }) fun _ =>
    Compute.heeds_line.bind (u := { leaves := true }) fun _ =>
      Compute.heeds_unsupported.ite Compute.heeds_pure

theorem heeds_earnedIncomeCredit : earnedIncomeCredit.Heeds
    { inputs := ["dependents"], lines := ["1040.filing_status", "11"], leaves := true } :=
  heeds_onReturn.bind (u := { inputs := ["dependents"], lines := ["11"], leaves := true })
    fun _ => Compute.heeds_line.bind (u := { inputs := ["dependents"], leaves := true }) fun _ =>
      Compute.heeds_pure.ite <| Compute.heeds_input.typed.bind (u := { leaves := true }) fun _ =>
        Compute.heeds_unsupported.ite Compute.heeds_pure

theorem heeds_estimatedTaxPenalty : estimatedTaxPenalty.Heeds
    { lines := ["37"], leaves := true } :=
  Compute.heeds_line.bind (u := { leaves := true }) fun _ =>
    Compute.heeds_unsupported.ite Compute.heeds_pure

theorem heeds_remainder {what minuend subtrahend : String} :
    (remainder what minuend subtrahend).Heeds { lines := [minuend, subtrahend] } :=
  heeds_difference.map

theorem heeds_alimonyPaid : alimonyPaid.Heeds
    { inputs := ["alimony_paid", "alimony_pre_2019"] } :=
  Compute.heeds_input.typed.bind (u := { inputs := ["alimony_pre_2019"] }) fun _ =>
    Compute.heeds_pure.ite <| Compute.heeds_input.typed.bind (u := {}) fun _ =>
      Compute.heeds_pure.ite Compute.heeds_pure

theorem heeds_alimonyRecipient : alimonyRecipient.Heeds
    { inputs := ["alimony_recipient_ssn"], lines := ["19a"] } :=
  Compute.heeds_line.bind (u := { inputs := ["alimony_recipient_ssn"] }) fun _ =>
    Compute.heeds_pure.ite Compute.heeds_input

theorem heeds_coverageLimit : coverageLimit.Heeds { lines := ["1"] } :=
  Compute.heeds_value.typed.map

theorem heeds_catchUp : catchUp.Heeds { inputs := ["age_55"] } :=
  Compute.heeds_input.typed.map

theorem heeds_deduction : deduction.Heeds { lines := ["2", "12"] } :=
  Compute.heeds_line.bind (u := { lines := ["12"] }) fun _ => Compute.heeds_line.map

theorem heeds_distributions : distributions.Heeds
    { inputs := ["distributions"], leaves := true } :=
  Compute.heeds_input.typed.bind (u := { leaves := true }) fun _ =>
    Compute.heeds_pure.ite Compute.heeds_unsupported

/-- Each field reads no more than it is allowed to. -/
def WellRead (form : Form) : Prop :=
  ∀ field ∈ form.fields, ∃ r, field.compute.Heeds r ∧ Allowed form field.name r

theorem wellRead_statements : WellRead wageStatement ∧ WellRead interestStatement ∧
    WellRead governmentStatement := by
  simp only [WellRead, Form.fields, wageStatement, interestStatement, governmentStatement,
    List.nil_append, List.forall_mem_cons]
  refine ⟨⟨⟨_, heeds_echo, by decide⟩, ⟨_, heeds_echo, by decide⟩, ⟨_, heeds_echo, by decide⟩, ?_⟩,
    ⟨⟨_, heeds_echo, by decide⟩, ⟨_, heeds_echo, by decide⟩, ⟨_, heeds_echo, by decide⟩,
      ⟨_, heeds_echo, by decide⟩, ⟨_, heeds_echo, by decide⟩, ⟨_, heeds_echo, by decide⟩,
      ⟨{ lines := ["interest", "treasury_interest"] }, ?_, by decide⟩, ?_⟩,
    ⟨_, heeds_echo, by decide⟩, ⟨_, heeds_echo, by decide⟩, ⟨_, heeds_echo, by decide⟩, ?_⟩
  · simp
  · exact heeds_money <| Compute.heeds_line.bind (u := { lines := ["treasury_interest"] })
      fun _ => Compute.heeds_line.bind (u := {}) fun _ => Compute.heeds_orOverflow
  · simp
  · simp

theorem wellRead_scheduleOne : WellRead scheduleOne := by
  simp only [WellRead, Form.fields, scheduleOne, List.append_nil, List.forall_mem_cons]
  refine ⟨⟨_, heeds_totalOf, by decide⟩, ⟨_, heeds_totalOf, by decide⟩,
    ⟨_, heeds_echo, by decide⟩, ⟨_, heeds_sumOf, by decide⟩, ⟨_, heeds_sumOf, by decide⟩,
    ⟨_, heeds_totalOf, by decide⟩, ⟨_, heeds_totalOf, by decide⟩,
    ⟨_, heeds_money heeds_alimonyPaid, by decide⟩, ⟨_, heeds_alimonyRecipient, by decide⟩,
    ⟨_, heeds_echo, by decide⟩, ⟨_, heeds_sumOf, by decide⟩, ⟨_, heeds_sumOf, by decide⟩, ?_⟩
  simp

theorem wellRead_scheduleB : WellRead scheduleB := by
  simp only [WellRead, Form.fields, scheduleB, List.append_nil, List.forall_mem_cons]
  refine ⟨⟨_, heeds_totalOf, by decide⟩, ⟨_, heeds_sumOf, by decide⟩,
    ⟨_, heeds_money Compute.heeds_pure, by decide⟩, ⟨_, heeds_money heeds_difference, by decide⟩,
    ⟨_, heeds_mustBeNo, by decide⟩, ⟨_, heeds_mustBeNo, by decide⟩, ?_⟩
  simp

theorem wellRead_healthSavings : WellRead healthSavings := by
  simp only [WellRead, Form.fields, healthSavings, List.cons_append, List.nil_append,
    List.forall_mem_cons]
  refine ⟨⟨_, heeds_money heeds_deduction, by decide⟩,
    ⟨_, heeds_money heeds_distributions, by decide⟩, ⟨_, heeds_echo, by decide⟩,
    ⟨_, heeds_echo, by decide⟩, ⟨_, heeds_money heeds_coverageLimit, by decide⟩,
    ⟨_, heeds_sumOf, by decide⟩, ⟨_, heeds_money heeds_catchUp, by decide⟩,
    ⟨_, heeds_sumOf, by decide⟩, ⟨_, heeds_echo, by decide⟩, ⟨_, heeds_sumOf, by decide⟩,
    ⟨_, heeds_money heeds_difference.map, by decide⟩, ?_⟩
  simp

theorem wellRead_individualReturn : WellRead individualReturn := by
  simp only [WellRead, Form.fields, individualReturn, List.append_nil, List.forall_mem_cons]
  refine ⟨⟨_, heeds_echo, by decide⟩, ⟨_, heeds_echo, by decide⟩, ⟨_, heeds_echo, by decide⟩,
    ⟨_, heeds_echo, by decide⟩, ⟨_, heeds_ofSpouse, by decide⟩, ⟨_, heeds_ofSpouse, by decide⟩,
    ⟨_, heeds_ofSpouse, by decide⟩, ⟨_, heeds_mustBeNo, by decide⟩,
    ⟨_, heeds_totalOf, by decide⟩, ⟨_, heeds_sumOf, by decide⟩, ⟨_, heeds_totalOf, by decide⟩,
    ⟨_, heeds_taxableInterest, by decide⟩, ⟨_, heeds_carry, by decide⟩,
    ⟨_, heeds_sumOf, by decide⟩, ⟨_, heeds_carry, by decide⟩,
    ⟨_, heeds_money heeds_difference, by decide⟩, ⟨_, heeds_money heeds_deductions, by decide⟩,
    ⟨_, heeds_money Compute.heeds_pure, by decide⟩, ⟨_, heeds_sumOf, by decide⟩,
    ⟨_, heeds_money heeds_remainder, by decide⟩, ⟨_, heeds_money heeds_incomeTax, by decide⟩,
    ⟨_, heeds_sumOf, by decide⟩, ⟨_, heeds_money heeds_dependentCredit, by decide⟩,
    ⟨_, heeds_sumOf, by decide⟩, ⟨_, heeds_money heeds_remainder, by decide⟩,
    ⟨_, heeds_money heeds_medicareTax, by decide⟩, ⟨_, heeds_sumOf, by decide⟩,
    ⟨_, heeds_totalOf, by decide⟩, ⟨_, heeds_totalOf, by decide⟩, ⟨_, heeds_sumOf, by decide⟩,
    ⟨_, heeds_money heeds_earnedIncomeCredit, by decide⟩, ⟨_, heeds_sumOf, by decide⟩,
    ⟨_, heeds_sumOf, by decide⟩, ⟨_, heeds_money heeds_remainder, by decide⟩,
    ⟨_, heeds_sumOf, by decide⟩, ⟨_, heeds_ofDeposit, by decide⟩,
    ⟨_, heeds_ofDeposit, by decide⟩, ⟨_, heeds_ofDeposit, by decide⟩,
    ⟨_, heeds_money heeds_remainder, by decide⟩,
    ⟨_, heeds_money heeds_estimatedTaxPenalty, by decide⟩, ?_⟩
  simp

theorem wellRead_library : ∀ form ∈ library.forms, WellRead form := by
  simp only [library, List.forall_mem_cons]
  exact ⟨wellRead_individualReturn, wellRead_scheduleOne, wellRead_scheduleB,
    wellRead_healthSavings, wellRead_statements.1, wellRead_statements.2.1,
    wellRead_statements.2.2, by simp⟩

/-- The value functions of 2023 come to the same outcomes when more is known. -/
theorem stable_library : library.Stable := by
  intro form hform field hfield
  obtain ⟨r, hr, -⟩ := wellRead_library form hform field hfield
  exact hr.stable

end TaxReturn.Year2023
