import TaxReturn.Form
import TaxReturn.Line

/-!
The statements that a filer receives. There are as many as the inputs have sections for, none of
them is filed, and their lines are copies of the boxes that the return reads.
-/
namespace TaxReturn.Year2023

open Line

/-- Form W-2. -/
def wageStatement : Form where
  name := "w-2"
  title := "Wage and Tax Statement"
  instancing := .free
  inputs := [
    ⟨"employer", .text, "Employer name"⟩,
    ⟨"box_1", .float, "Box 1: Wages, tips, other compensation"⟩,
    ⟨"box_2", .float, "Box 2: Federal income tax withheld"⟩]
  optional := [
    echo "employer" .text "employer",
    echoMoney "wages" "box_1",
    echoMoney "withholding" "box_2"]
  needsFiling := fun _ => false

/-- Form 1099-INT. -/
def interestStatement : Form where
  name := "1099-int"
  title := "Interest Income"
  instancing := .free
  inputs := [
    ⟨"payer", .text, "Payer name"⟩,
    ⟨"box_1", .float, "Box 1: Interest income"⟩,
    ⟨"box_2", .float, "Box 2: Early withdrawal penalty"⟩,
    ⟨"box_3", .float, "Box 3: Interest on U.S. Savings Bonds and Treasury obligations"⟩,
    ⟨"box_4", .float, "Box 4: Federal income tax withheld"⟩,
    ⟨"box_8", .float, "Box 8: Tax-exempt interest"⟩]
  optional := [
    echo "payer" .text "payer",
    echoMoney "interest" "box_1",
    echoMoney "penalty" "box_2",
    echoMoney "treasury_interest" "box_3",
    echoMoney "withholding" "box_4",
    echoMoney "tax_exempt" "box_8",
    money "taxable" do
      let interest ← Compute.line "interest"
      let treasury ← Compute.line "treasury_interest"
      Compute.plus "1099-int.taxable" interest treasury]
  needsFiling := fun _ => false

/-- Form 1099-G. -/
def governmentStatement : Form where
  name := "1099-g"
  title := "Certain Government Payments"
  instancing := .free
  inputs := [
    ⟨"payer", .text, "Payer name"⟩,
    ⟨"box_1", .float, "Box 1: Unemployment compensation"⟩,
    ⟨"box_2", .float, "Box 2: State or local income tax refunds, credits, or offsets"⟩]
  optional := [
    echo "payer" .text "payer",
    echoMoney "unemployment" "box_1",
    echoMoney "refund" "box_2"]
  needsFiling := fun _ => false

end TaxReturn.Year2023
