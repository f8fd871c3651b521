import TaxReturn.Field

/-!
The lines that forms are made of: amounts in dollars and cents, copies of inputs, and totals.
-/
namespace TaxReturn.Line

/-- An amount with two places. -/
def money (name : String) (compute : Compute Decimal) : Field :=
  ⟨name, .decimal 2, return .number (← compute)⟩

/-- A copy of an input. -/
def echo (name : String) (kind : ValueKind) (input : String) : Field :=
  ⟨name, kind, Compute.input input⟩

def echoMoney (name input : String) : Field := echo name (.decimal 2) input

/-- A copy of another field. -/
def carry (name source : String) : Field := ⟨name, .decimal 2, Compute.value source⟩

/-- The total of one field over all the instances of a form. -/
def totalOf (name form field : String) : Field := money name (Compute.sumInstances form field)

/-- The sum of lines. -/
def sumOf (name : String) (lines : List String) : Field :=
  money name (Compute.sumLines name 0 lines)

/-- The difference of two lines, for the line `what`. -/
def difference (what minuend subtrahend : String) : Compute Decimal := do
  let a ← Compute.line minuend
  let b ← Compute.line subtrahend
  Compute.minus what a b

/-- A yes-or-no question that has to be answered with no. -/
def mustBeNo (name input detail : String) : Field :=
  ⟨name, .boolean, do
    if ← Compute.asBool Compute.input input then Compute.unsupported detail
    else return .bool false⟩

end TaxReturn.Line
