import TaxReturn.Year2023.HealthSavings
import TaxReturn.Year2023.IndividualReturn
import TaxReturn.Year2023.Statements

/-!
The federal forms of 2023.
-/
namespace TaxReturn.Year2023

def library : Library where
  year := 2023
  forms := [individualReturn, scheduleOne, scheduleB, healthSavings, wageStatement,
    interestStatement, governmentStatement]

end TaxReturn.Year2023
