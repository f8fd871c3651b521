import TaxReturn.Decimal.Arithmetic

/-!
The values of fields and inputs.
-/
namespace TaxReturn

inductive Value where
  /-- Nothing; a field that computes it gets the empty value of its kind. -/
  | empty
  | text (text : String)
  | bool (flag : Bool)
  | int (number : Int64)
  | number (amount : Decimal)
  /-- One key of an enumeration, or none of them. -/
  | choice (key : Option String)
  deriving DecidableEq, Repr

namespace Value

def typeName : Value → String
  | empty => "empty"
  | text _ => "text"
  | bool _ => "boolean"
  | int _ => "integer"
  | number _ => "number"
  | choice _ => "enum"

/-- A number; integers are numbers too. -/
def asDecimal? : Value → Option Decimal
  | number d => some d
  | int i => some (Decimal.ofInt64 i)
  | _ => none

def asInt? : Value → Option Int64
  | int i => some i
  | _ => none

def asBool? : Value → Option Bool
  | bool b => some b
  | _ => none

def asText? : Value → Option String
  | text s => some s
  | _ => none

def asChoice? : Value → Option (Option String)
  | choice key => some key
  | _ => none

end Value
end TaxReturn
