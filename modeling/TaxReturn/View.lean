import TaxReturn.Input.Store
import TaxReturn.Value.Store

/-!
What a field sees: the inputs and the values, with bare keys read as keys of its own form. A
lookup that cannot be answered stops the evaluation with the reason.
-/
namespace TaxReturn

namespace Value

/-- A value as the type that its reader needs. -/
def expect {α : Type} (name expected : String) (value : Value) : Option α → Except Signal α
  | some a => .ok a
  | none => .error (.fatal (.wrongType name expected value.typeName))

end Value

/-- The values as a form sees them. -/
structure ValueView where
  form : String
  values : ValueStore

namespace ValueView

variable (view : ValueView) (key : String)

def qualify : String := Name.scopeTo view.form key

def get : Except Signal Value := view.values.get (view.qualify key)

def has : Bool := view.values.has (view.qualify key)

/-- The amount on a line. -/
def decimal : Except Signal Decimal := do
  let value ← view.get key
  value.expect (view.qualify key) "number" value.asDecimal?

/-- Whether a line can be read and is not zero, for one of the lines. -/
def anyNonzero (lines : List String) : Bool :=
  lines.any fun key =>
    match view.decimal key with
    | .ok amount => !amount.isZero
    | .error _ => false

/-- Whether a line can be read and is more than `limit`. -/
def exceeds (key : String) (limit : Decimal) : Bool :=
  match view.decimal key with
  | .ok amount => decide (limit < amount)
  | .error _ => false

end ValueView

/-- All that the evaluation of a field can read. -/
structure Scope extends ValueView where
  inputs : InputStore

/-- A computation that reads inputs and values. -/
abbrev Compute (α : Type) : Type := ReaderT Scope (Except Signal) α

namespace Compute

def stop {α : Type} (signal : Signal) : Compute α := fun _ => .error signal

def fail {α : Type} (error : TaxError) : Compute α := stop (.fatal error)

/-- The form does not compute what the return needs here. -/
def unsupported {α : Type} (detail : String) : Compute α := stop (.notImplemented (some detail))

/-- Where an amount ought to be: none means that the arithmetic left the range of decimals. -/
def orOverflow (what : String) : Option Decimal → Compute Decimal
  | some amount => pure amount
  | none => fail (.overflow what)

def input (key : String) : Compute Value := fun s => s.inputs.parse (s.qualify key)

def value (key : String) : Compute Value := fun s => s.get key

def hasInput (key : String) : Compute Bool := fun s => .ok (s.inputs.has (s.qualify key))

def hasValue (key : String) : Compute Bool := fun s => .ok (s.has key)

def instances (form : String) : Compute (List String) := fun s => .ok (s.inputs.instances form)

def form : Compute String := fun s => .ok s.form

def qualify (key : String) : Compute String := fun s => .ok (s.qualify key)

/-- Read through `get`, and have the value as the type that is needed. -/
def typed {α : Type} (get : String → Compute Value) (expected : String) (as? : Value → Option α)
    (key : String) : Compute α := do
  let value ← get key
  fun s => value.expect (s.qualify key) expected (as? value)

def asDecimal (get : String → Compute Value) : String → Compute Decimal :=
  typed get "number" Value.asDecimal?

def asInt (get : String → Compute Value) : String → Compute Int64 :=
  typed get "integer" Value.asInt?

def asBool (get : String → Compute Value) : String → Compute Bool :=
  typed get "boolean" Value.asBool?

def asText (get : String → Compute Value) : String → Compute String :=
  typed get "text" Value.asText?

def asChoice (get : String → Compute Value) : String → Compute (Option String) :=
  typed get "enum" Value.asChoice?

/-- The amount on a line. -/
def line : String → Compute Decimal := asDecimal value

/-- The sum of two amounts, for `what`. -/
def plus (what : String) (a b : Decimal) : Compute Decimal := orOverflow what (a.add? b)

def minus (what : String) (a b : Decimal) : Compute Decimal := orOverflow what (a.sub? b)

def sum (what : String) : Decimal → List Decimal → Compute Decimal
  | total, [] => pure total
  | total, a :: rest => do sum what (← plus what total a) rest

/-- The sum of lines, each read when the sum comes to it. -/
def sumLines (what : String) : Decimal → List String → Compute Decimal
  | total, [] => pure total
  | total, key :: rest => do sumLines what (← plus what total (← line key)) rest

/-- The sum of one field over all the instances of a form. -/
def sumInstances (form field : String) : Compute Decimal := do
  let tags ← instances form
  sumLines (form ++ "." ++ field ++ " total") 0
    (tags.map fun tag => form ++ ":" ++ tag ++ "." ++ field)

end Compute
end TaxReturn
