import TaxReturn.FilingStatus

/-!
The dollar amounts of 2023: what may be deducted, and where a rule starts or stops to apply.
-/
namespace TaxReturn.Year2023

def standardDeduction : FilingStatus → Decimal
  | .single | .marriedSeparately => .ofNat 13850
  | .marriedJointly | .survivingSpouse => .ofNat 27700
  | .headOfHousehold => .ofNat 20800

/-- Interest above which Schedule B has to be filed. -/
def interestThreshold : Decimal := .ofNat 1500

/-- Wages above which the additional Medicare tax may apply. -/
def medicareThreshold : FilingStatus → Decimal
  | .marriedJointly => .ofNat 250000
  | .marriedSeparately => .ofNat 125000
  | _ => .ofNat 200000

/-- The income from which on there is no earned income credit. -/
def earnedIncomeLimit (status : FilingStatus) (dependents : Int64) : Decimal :=
  match decide (0 < dependents), status with
  | false, .marriedJointly => .ofNat 24210
  | false, _ => .ofNat 17640
  | true, .marriedJointly => .ofNat 63698
  | true, _ => .ofNat 56838

/-- The amount owed above which there may be a penalty. -/
def penaltyThreshold : Decimal := .ofNat 1000

/-- What may be contributed to a health savings account under self-only coverage. -/
def selfOnlyLimit : Decimal := .ofNat 3850

def familyLimit : Decimal := .ofNat 7750

/-- What may be contributed on top of the limit from the age of 55 on. -/
def catchUpLimit : Decimal := .ofNat 1000

end TaxReturn.Year2023
