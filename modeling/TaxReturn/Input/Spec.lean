import TaxReturn.Name.Form
import TaxReturn.Value.Kind
import TaxReturn.Pattern.Reader

/-!
What the filer is asked for: the name of an input, how its text is read, and what a prompt says
about it. Reading looks at the text alone, never at other inputs.
-/
namespace TaxReturn

/-- One key of an enumeration and what it is called in a prompt. -/
structure InputOption where
  key : String
  label : String
  deriving DecidableEq, Repr

inductive InputKind where
  | text
  | boolean
  | integer
  | float
  | enumeration (options : List InputOption) (allowBlank : Bool)
  /-- Text that matches a pattern as a whole. -/
  | pattern (source : String) (pattern : Pattern)
  | ssn
  deriving Repr

namespace InputKind

def label : InputKind → String
  | text => "text"
  | boolean => "boolean"
  | integer => "integer"
  | float => "float"
  | enumeration _ _ => "enumeration"
  | pattern _ _ => "pattern"
  | ssn => "ssn"

/-- The kind of field that can hold what this input gives. -/
def valueKind : InputKind → ValueKind
  | text | pattern _ _ => .text
  | boolean => .boolean
  | integer => .integer
  | float => .float
  | enumeration options _ => .enumeration (options.map (·.key))
  | ssn => .ssn

end InputKind

structure InputSpec where
  name : String
  kind : InputKind
  description : String
  deriving Repr

namespace InputSpec

/-- An input with a valid base name. -/
def make (name : String) (kind : InputKind) (description : String) : Except TaxError InputSpec := do
  Name.checkBase name
  return ⟨name, kind, description⟩

/-- A patterned input. The pattern is looked at before the name. -/
def makePattern (name source description : String) : Except TaxError InputSpec :=
  match Pattern.whole? source with
  | some p => make name (.pattern source p) description
  | none => .error (.invalidName name .badPattern)

variable (spec : InputSpec)

/-- Read what was entered, with blanks around it. -/
def parse (raw : String) : Except ValueFault Value :=
  let entry := Text.trim raw
  match spec.kind with
  | .text => .ok (.text entry)
  | .boolean =>
    match Scalar.parseBool entry with
    | some b => .ok (.bool b)
    | none => .error .notYesOrNo
  | .integer =>
    if entry.isEmpty then .ok (.int 0)
    else match Scalar.parseInt entry with
      | .ok i => .ok (.int i)
      | .error fault => .error (.notInteger fault)
  | .float =>
    if entry.isEmpty then .ok (.number 0)
    else match Decimal.parseAmount entry with
      | .ok d => .ok (.number d)
      | .error fault => .error fault
  | .enumeration options allowBlank =>
    if entry.isEmpty then if allowBlank then .ok (.choice none) else .error .required
    else if entry ∈ options.map (·.key) then .ok (.choice (some entry))
    else .error (.notAnOption (options.map (·.key)))
  | .pattern source pattern =>
    if pattern.occursIn entry then .ok (.text entry) else .error (.mismatch source)
  | .ssn =>
    let digits := entry.toList.filter (· != '-')
    if digits.length = 9 ∧ digits.all Char.isDigit then .ok (.text (String.ofList digits))
    else .error .notNineDigits

def accepts (raw : String) : Bool := (spec.parse raw).isOk

/-- What a prompt says about the input: its description, and the options if it has any. -/
def help : String :=
  match spec.kind with
  | .enumeration options _ =>
    spec.description ++ "\n" ++
      Text.join "\n" (options.map fun o => "  " ++ o.key ++ ": " ++ o.label)
  | _ => spec.description

/-- What an entry looks like. -/
def suggestion : String :=
  match spec.kind with
  | .text => "text"
  | .boolean => "y/n"
  | .integer => "whole number"
  | .float => "amount, e.g. 1234.56"
  | .enumeration options allowBlank =>
    Text.join "/" (options.map (·.key)) ++ if allowBlank then ", or blank" else ""
  | .pattern source _ => "matching " ++ source
  | .ssn => "###-##-####"

end InputSpec
end TaxReturn
