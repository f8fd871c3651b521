import TaxReturn.Value.Basic
import TaxReturn.Value.Scalar
import TaxReturn.Decimal.Text

/-!
The kinds of fields. A kind says what a computed value becomes before it is kept, and how values
of the kind are written and read.
-/
namespace TaxReturn

inductive ValueKind where
  | text
  | ssn
  | boolean
  | integer
  | float
  | decimal (places : Nat)
  | enumeration (keys : List String)
  deriving DecidableEq, Repr

/-- What a value is when it is not of the kind asked for. -/
inductive Mismatch where
  | typed (typeName : String)
  | unknownKey (key : String)
  deriving DecidableEq, Repr

def Mismatch.text : Mismatch → String
  | .typed name => name
  | .unknownKey key => "unknown enum key " ++ Text.quote key

/-- Nothing, or text without any. -/
def Value.isBlank : Value → Bool
  | .empty => true
  | .text s => (Text.trimChars s.toList).isEmpty
  | _ => false

namespace ValueKind

def empty : ValueKind → Value
  | text | ssn => .text ""
  | boolean => .bool false
  | integer => .int 0
  | float => .number 0
  | decimal places => .number (Decimal.fixPlaces 0 places)
  | enumeration _ => .choice none

/-- The value that is kept: blank becomes empty, and decimals get the places of the kind. -/
def canonicalize (kind : ValueKind) (value : Value) : Except Mismatch Value :=
  if value.isBlank then .ok kind.empty
  else match kind, value with
    | text, .text s | ssn, .text s => .ok (.text s)
    | boolean, .bool b => .ok (.bool b)
    | integer, .int i => .ok (.int i)
    | float, .number d => .ok (.number d)
    | float, .int i => .ok (.number (Decimal.ofInt64 i))
    | decimal places, .number d => .ok (.number (d.fixPlaces places))
    | decimal places, .int i => .ok (.number ((Decimal.ofInt64 i).fixPlaces places))
    | enumeration _, .choice none => .ok (.choice none)
    | enumeration keys, .choice (some key) =>
      if key ∈ keys then .ok (.choice (some key)) else .error (.unknownKey key)
    | _, other => .error (.typed other.typeName)

def encode (kind : ValueKind) : Value → String
  | .empty => ""
  | .text s => s
  | .bool b => Scalar.boolText b
  | .int i => Scalar.intText i
  | .number d =>
    match kind with
    | decimal places => (d.fixPlaces places).text
    | _ => d.text
  | .choice key => key.getD ""

/-- Read what `encode` writes, with blanks around it; nothing but blanks is the empty value. -/
def decode (kind : ValueKind) (raw : String) : Except ValueFault Value :=
  let raw := Text.trim raw
  match kind with
  | text | ssn => .ok (.text raw)
  | boolean =>
    if raw.isEmpty then .ok kind.empty
    else match Scalar.parseBool raw with
      | some b => .ok (.bool b)
      | none => .error .notBoolean
  | integer =>
    if raw.isEmpty then .ok kind.empty
    else match Scalar.parseInt raw with
      | .ok i => .ok (.int i)
      | .error fault => .error (.notInteger fault)
  | float =>
    if raw.isEmpty then .ok kind.empty
    else match Decimal.parse raw with
      | .ok d => .ok (.number d)
      | .error fault => .error (.notDecimal fault)
  | decimal places =>
    if raw.isEmpty then .ok kind.empty
    else match Decimal.parse raw with
      | .ok d => .ok (.number (d.fixPlaces places))
      | .error fault => .error (.notDecimal fault)
  | enumeration keys =>
    if raw.isEmpty then .ok kind.empty
    else if raw ∈ keys then .ok (.choice (some raw))
    else .error (.notAKey keys)

def label : ValueKind → String
  | text => "text"
  | ssn => "ssn"
  | boolean => "boolean"
  | integer => "integer"
  | float => "float"
  | decimal places => "decimal(" ++ toString places ++ ")"
  | enumeration keys => "enum(" ++ Text.join "|" keys ++ ")"

end ValueKind
end TaxReturn
