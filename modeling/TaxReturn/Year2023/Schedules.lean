import TaxReturn.Form
import TaxReturn.Line
import TaxReturn.Year2023.Amounts

/-!
The schedules of the individual return: Schedule 1 adds income and adjustments, Schedule B lists
interest once there is more than $1,500 of it.
-/
namespace TaxReturn.Year2023

open Line

/-- Alimony counts if the agreement is from before 2019. -/
def alimonyPaid : Compute Decimal := do
  let paid ← Compute.asDecimal Compute.input "alimony_paid"
  if paid.isZero then return 0
  else if ← Compute.asBool Compute.input "alimony_pre_2019" then return paid
  else return 0

/-- Whom alimony was paid to, asked only where it counts. -/
def alimonyRecipient : Compute Value := do
  let paid ← Compute.line "19a"
  if paid.isZero then return .empty else Compute.input "alimony_recipient_ssn"

def scheduleOne : Form where
  name := "1040_s1"
  title := "Additional Income and Adjustments to Income"
  sequence := 1
  inputs := [
    ⟨"mortgage_interest_refund", .float, "Refund of mortgage interest deducted in a prior year"⟩,
    ⟨"alimony_paid", .float, "Alimony paid during the year"⟩,
    ⟨"alimony_pre_2019", .boolean,
      "Was the divorce or separation agreement executed before 2019?"⟩,
    ⟨"alimony_recipient_ssn", .ssn, "Social security number of the alimony recipient"⟩,
    ⟨"other_adjustments", .float, "Other adjustments to income"⟩]
  required := [
    totalOf "1" "1099-g" "refund",
    totalOf "7" "1099-g" "unemployment",
    echoMoney "8z" "mortgage_interest_refund",
    sumOf "9" ["8z"],
    sumOf "10" ["1", "7", "9"],
    totalOf "13" "8889" "13",
    totalOf "18" "1099-int" "penalty",
    money "19a" alimonyPaid,
    ⟨"19b", .ssn, alimonyRecipient⟩,
    echoMoney "24z" "other_adjustments",
    sumOf "25" ["24z"],
    sumOf "26" ["13", "18", "19a", "25"]]
  needsFiling := fun view => view.anyNonzero ["10", "26"]

def scheduleB : Form where
  name := "1040_sb"
  title := "Interest and Ordinary Dividends"
  sequence := 8
  inputs := [
    ⟨"foreign_account", .boolean,
      "At any time during 2023, did you have a financial interest in or signature authority " ++
        "over a financial account located in a foreign country?"⟩,
    ⟨"foreign_trust", .boolean,
      "During 2023, did you receive a distribution from, or were you the grantor of, or " ++
        "transferor to, a foreign trust?"⟩]
  required := [
    totalOf "1" "1099-int" "taxable",
    sumOf "2" ["1"],
    money "3" (pure 0),
    money "4" (difference "1040_sb.4" "2" "3"),
    mustBeNo "7a" "foreign_account" "foreign financial accounts",
    mustBeNo "8" "foreign_trust" "foreign trusts"]
  needsFiling := fun view => view.exceeds "4" interestThreshold

end TaxReturn.Year2023
