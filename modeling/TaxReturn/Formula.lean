import TaxReturn.View

/-!
Formulas: computations given as data. Operands are evaluated from left to right, and the first one
that stops decides.
-/
namespace TaxReturn

/-- The type that a read value has to be of. -/
inductive Getter where
  | decimal
  | int
  | boolean
  | text
  | choice
  deriving DecidableEq, Repr

inductive Formula where
  | literal (value : Value)
  | input (key : String)
  | value (key : String)
  | inputAs (getter : Getter) (key : String)
  | valueAs (getter : Getter) (key : String)
  | hasInput (key : String)
  | hasValue (key : String)
  /-- The tags of a form's instances, with commas between them. -/
  | instances (form : String)
  | sumInstances (form field : String)
  | add (a b : Formula)
  | sub (a b : Formula)
  | mul (a b : Formula)
  | nonNegative (a : Formula)
  | greater (a b : Formula)
  | choose (condition yes no : Formula)
  | form
  | qualify (key : String)
  | stop (signal : Signal)

/-- Read a value through `get` as one of the getter's type. -/
def Getter.read (get : String → Compute Value) (key : String) : Getter → Compute Value
  | decimal => return .number (← Compute.asDecimal get key)
  | int => return .int (← Compute.asInt get key)
  | boolean => return .bool (← Compute.asBool get key)
  | text => return .text (← Compute.asText get key)
  | choice => return .choice (← Compute.asChoice get key)

namespace Formula

def sum (terms : List Formula) : Formula := terms.foldl add (literal (.number 0))

def asNumber (v : Value) : Compute Decimal :=
  match v.asDecimal? with
  | some d => pure d
  | none => Compute.fail (.wrongType "expr" "number" v.typeName)

def asCondition (v : Value) : Compute Bool :=
  match v.asBool? with
  | some b => pure b
  | none => Compute.fail (.wrongType "expr" "boolean" v.typeName)

def eval : Formula → Compute Value
  | literal v => pure v
  | input key => Compute.input key
  | value key => Compute.value key
  | inputAs getter key => getter.read Compute.input key
  | valueAs getter key => getter.read Compute.value key
  | hasInput key => return .bool (← Compute.hasInput key)
  | hasValue key => return .bool (← Compute.hasValue key)
  | instances name => return .text (Text.join "," (← Compute.instances name))
  | sumInstances name field => return .number (← Compute.sumInstances name field)
  | add a b => do
    let x ← asNumber (← a.eval)
    let y ← asNumber (← b.eval)
    return .number (← Compute.orOverflow "add" (x.add? y))
  | sub a b => do
    let x ← asNumber (← a.eval)
    let y ← asNumber (← b.eval)
    return .number (← Compute.orOverflow "sub" (x.sub? y))
  | mul a b => do
    let x ← asNumber (← a.eval)
    let y ← asNumber (← b.eval)
    return .number (← Compute.orOverflow "mul" (x.mul? y))
  | nonNegative a => do
    let x ← asNumber (← a.eval)
    return .number x.nonNegative
  | greater a b => do
    let x ← asNumber (← a.eval)
    let y ← asNumber (← b.eval)
    return .bool (decide (y < x))
  | choose c a b => do
    if ← asCondition (← c.eval) then a.eval else b.eval
  | form => return .text (← Compute.form)
  | qualify key => return .text (← Compute.qualify key)
  | stop signal => Compute.stop signal

end Formula
end TaxReturn
