import TaxReturn.View

/-!
Filing statuses, as the input `1040.filing_status` gives them.
-/
namespace TaxReturn

inductive FilingStatus where
  | single
  | marriedJointly
  | marriedSeparately
  | headOfHousehold
  | survivingSpouse
  deriving DecidableEq, Repr

namespace FilingStatus

/-- The statuses in the order of the boxes on a return. -/
def all : List FilingStatus :=
  [single, marriedJointly, marriedSeparately, headOfHousehold, survivingSpouse]

def key : FilingStatus → String
  | single => "single"
  | marriedJointly => "mfj"
  | marriedSeparately => "mfs"
  | headOfHousehold => "hoh"
  | survivingSpouse => "qss"

def label : FilingStatus → String
  | single => "Single"
  | marriedJointly => "Married filing jointly"
  | marriedSeparately => "Married filing separately"
  | headOfHousehold => "Head of household"
  | survivingSpouse => "Qualifying surviving spouse"

def options : List InputOption := all.map fun s => ⟨s.key, s.label⟩

/-- Whether a spouse is on the return. -/
def hasSpouse : FilingStatus → Bool
  | marriedJointly | marriedSeparately => true
  | _ => false

def ofKey (key : String) : Except TaxError FilingStatus :=
  match all.find? fun s => s.key == key with
  | some status => .ok status
  | none => .error (.invalidInput "1040.filing_status" key .unknownStatus)

/-- The status on the return. -/
def onReturn : Compute FilingStatus := do
  let key ← Compute.asChoice Compute.value "1040.filing_status"
  match ofKey (key.getD "") with
  | .ok status => return status
  | .error e => Compute.fail e

end FilingStatus
end TaxReturn
