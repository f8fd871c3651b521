import TaxReturn.Year2023.Library
import TaxReturn.Year2023.Printed

/-!
The tax years that there are forms for.
-/
namespace TaxReturn

def supportedYears : List Nat := [2023]

/-- There are no forms for this year. -/
structure UnsupportedYear where
  year : Nat
  deriving DecidableEq, Repr

def UnsupportedYear.message (e : UnsupportedYear) : String :=
  "no forms for tax year " ++ toString e.year ++ "; supported years: " ++
    Text.join ", " (supportedYears.map toString)

def libraryFor (year : Nat) : Except UnsupportedYear Library :=
  if year = 2023 then .ok Year2023.library else .error ⟨year⟩

def printedFormsFor (year : Nat) : Except UnsupportedYear PrintedForms :=
  if year = 2023 then .ok Year2023.printedForms else .error ⟨year⟩

end TaxReturn
