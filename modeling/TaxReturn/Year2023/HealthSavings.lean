import TaxReturn.Form
import TaxReturn.Line
import TaxReturn.Year2023.Amounts

/-!
Form 8889, one for each covered person. Line 13 is the deduction, and distributions are beyond
this library.
-/
namespace TaxReturn.Year2023

open Line

/-- The yearly limit for the coverage on line 1. -/
def coverageLimit : Compute Decimal := do
  let coverage ← Compute.asChoice Compute.value "1"
  return if coverage = some "family" then familyLimit else selfOnlyLimit

def catchUp : Compute Decimal := do
  return if ← Compute.asBool Compute.input "age_55" then catchUpLimit else 0

/-- The contributions, up to what the limit leaves. -/
def deduction : Compute Decimal := do
  let contributed ← Compute.line "2"
  let room ← Compute.line "12"
  return min contributed room

def distributions : Compute Decimal := do
  let paid ← Compute.asDecimal Compute.input "distributions"
  if paid.isZero then return 0 else Compute.unsupported "HSA distributions"

def healthSavings : Form where
  name := "8889"
  title := "Health Savings Accounts (HSAs)"
  sequence := 52
  instancing := .fixed ["taxpayer", "spouse"]
  inputs := [
    ⟨"coverage", .enumeration [⟨"self_only", "Self-only"⟩, ⟨"family", "Family"⟩] false,
      "Coverage under a high-deductible health plan during 2023"⟩,
    ⟨"age_55", .boolean, "Were you 55 or older at the end of 2023?"⟩,
    ⟨"contributions", .float,
      "HSA contributions you made for 2023, excluding employer contributions"⟩,
    ⟨"employer_contributions", .float, "Employer contributions (W-2 box 12, code W)"⟩,
    ⟨"distributions", .float, "Total HSA distributions received in 2023"⟩]
  required := [
    money "13" deduction,
    money "14a" distributions]
  optional := [
    echo "1" (.enumeration ["self_only", "family"]) "coverage",
    echoMoney "2" "contributions",
    money "3" coverageLimit,
    sumOf "6" ["3"],
    money "7" catchUp,
    sumOf "8" ["6", "7"],
    echoMoney "9" "employer_contributions",
    sumOf "11" ["9"],
    money "12" (return (← difference "8889.12" "8" "11").nonNegative)]

end TaxReturn.Year2023
