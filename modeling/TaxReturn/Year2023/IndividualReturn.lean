import TaxReturn.Form
import TaxReturn.Line
import TaxReturn.Pattern.Sets
import TaxReturn.Year2023.Amounts
import TaxReturn.Year2023.Rates
import TaxReturn.Year2023.Schedules

/-!
Form 1040. Wages and interest come from the statements in the inputs, lines 8 and 10 from
Schedule 1, and line 2b from Schedule B once the interest is above its threshold. A return that
needs digital assets, itemized deductions, dependents, the earned income credit, the additional
Medicare tax or the estimated tax penalty is not computed any further where it needs them.
-/
namespace TaxReturn.Year2023

open Line FilingStatus

/-- A copy of an input that is read only if a spouse is on the return. -/
def ofSpouse (name : String) (kind : ValueKind) : Field :=
  ⟨name, kind, do
    if (← onReturn).hasSpouse then Compute.input name else return .empty⟩

/-- A copy of an input that is read only if there is a refund to deposit. -/
def ofDeposit (name : String) (kind : ValueKind) (input : String) : Field :=
  ⟨name, kind, do
    if (← Compute.line "35a") ≤ 0 then return .empty else Compute.input input⟩

/-- Interest from the statements, or from Schedule B once it is above the threshold. -/
def taxableInterest : Compute Value := do
  let direct ← Compute.sumInstances "1099-int" "taxable"
  if interestThreshold < direct then Compute.value "1040_sb.4" else return .number direct

def deductions : Compute Decimal := do
  if ← Compute.asBool Compute.input "itemize" then Compute.unsupported "itemized deductions"
  else return standardDeduction (← onReturn)

def incomeTax : Compute Decimal := do
  let status ← onReturn
  let income ← Compute.line "15"
  Compute.orOverflow "1040.16" (figureTax income status)

def dependentCredit : Compute Decimal := do
  if 0 < (← Compute.asInt Compute.input "dependents") then
    Compute.unsupported "child tax credit and credit for other dependents"
  else return 0

def medicareTax : Compute Decimal := do
  let status ← onReturn
  let wages ← Compute.line "1a"
  if medicareThreshold status < wages then Compute.unsupported "additional Medicare tax"
  else return 0

def earnedIncomeCredit : Compute Decimal := do
  let status ← onReturn
  let income ← Compute.line "11"
  if status = .marriedSeparately ∨ income ≤ 0 then return 0
  else
    let dependents ← Compute.asInt Compute.input "dependents"
    if income < earnedIncomeLimit status dependents then Compute.unsupported "earned income credit"
    else return 0

def estimatedTaxPenalty : Compute Decimal := do
  if penaltyThreshold < (← Compute.line "37") then Compute.unsupported "estimated tax penalty"
  else return 0

/-- What is left of one line after another, or nothing. -/
def remainder (what minuend subtrahend : String) : Compute Decimal := do
  return (← difference what minuend subtrahend).nonNegative

/-- Nine digits. -/
def routingNumber : Pattern := .whole (.times (.one Pattern.digitSet) 9 (some 9))

/-- Up to seventeen ASCII letters, digits and hyphens. -/
def accountNumber : Pattern :=
  .whole (.times (.one (.ofText ["2d 30-39 41-5a 61-7a"])) 1 (some 17))

def individualReturn : Form where
  name := "1040"
  title := "U.S. Individual Income Tax Return"
  inputs := [
    ⟨"first_name", .text, "Your first name and middle initial"⟩,
    ⟨"last_name", .text, "Your last name"⟩,
    ⟨"ssn", .ssn, "Your social security number"⟩,
    ⟨"spouse_first_name", .text, "Spouse's first name and middle initial"⟩,
    ⟨"spouse_last_name", .text, "Spouse's last name"⟩,
    ⟨"spouse_ssn", .ssn, "Spouse's social security number"⟩,
    ⟨"filing_status", .enumeration FilingStatus.options false, "Filing status"⟩,
    ⟨"virtual_currency", .boolean,
      "At any time during 2023, did you receive, sell, exchange, or otherwise dispose of a " ++
        "digital asset?"⟩,
    ⟨"itemize", .boolean, "Do you itemize deductions?"⟩,
    ⟨"dependents", .integer, "Number of dependents you can claim"⟩,
    ⟨"routing_number", .pattern "\\d\x7b9\x7d" routingNumber,
      "Routing number for direct deposit of your refund"⟩,
    ⟨"account_type", .enumeration [⟨"checking", "Checking"⟩, ⟨"savings", "Savings"⟩] false,
      "Type of account for direct deposit"⟩,
    ⟨"account_number", .pattern "[0-9A-Za-z-]\x7b1,17\x7d" accountNumber,
      "Account number for direct deposit"⟩]
  required := [
    echo "first_name" .text "first_name",
    echo "last_name" .text "last_name",
    echo "ssn" .ssn "ssn",
    echo "filing_status" (.enumeration (FilingStatus.all.map FilingStatus.key)) "filing_status",
    ofSpouse "spouse_first_name" .text,
    ofSpouse "spouse_last_name" .text,
    ofSpouse "spouse_ssn" .ssn,
    mustBeNo "virtual_currency" "virtual_currency" "digital asset transactions",
    -- Income
    totalOf "1a" "w-2" "wages",
    sumOf "1z" ["1a"],
    totalOf "2a" "1099-int" "tax_exempt",
    ⟨"2b", .decimal 2, taxableInterest⟩,
    carry "8" "1040_s1.10",
    sumOf "9" ["1z", "2b", "8"],
    carry "10" "1040_s1.26",
    money "11" (difference "1040.11" "9" "10"),
    -- Deductions and tax
    money "12" deductions,
    money "13" (pure 0),
    sumOf "14" ["12", "13"],
    money "15" (remainder "1040.15" "11" "14"),
    money "16" incomeTax,
    sumOf "18" ["16"],
    money "19" dependentCredit,
    sumOf "21" ["19"],
    money "22" (remainder "1040.22" "18" "21"),
    money "23" medicareTax,
    sumOf "24" ["22", "23"],
    -- Payments
    totalOf "25a" "w-2" "withholding",
    totalOf "25b" "1099-int" "withholding",
    sumOf "25d" ["25a", "25b"],
    money "27" earnedIncomeCredit,
    sumOf "32" ["27"],
    sumOf "33" ["25d", "32"],
    -- Refund or amount owed
    money "34" (remainder "1040.34" "33" "24"),
    sumOf "35a" ["34"],
    ofDeposit "35b" .text "routing_number",
    ofDeposit "35c" (.enumeration ["checking", "savings"]) "account_type",
    ofDeposit "35d" .text "account_number",
    money "37" (remainder "1040.37" "24" "33"),
    money "38" estimatedTaxPenalty]

end TaxReturn.Year2023
