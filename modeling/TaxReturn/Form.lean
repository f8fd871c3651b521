import TaxReturn.Field

/-!
Forms and the libraries they stand in. The required fields of a form are solved whenever the form
is taken up, the optional ones only when another field reads them. A form says which instances of
it there can be; its fields see the instance only as the scope they are computed in.
-/
namespace TaxReturn

inductive Jurisdiction where
  | federal
  | state (code : String)
  deriving DecidableEq, Repr

namespace Jurisdiction

def text : Jurisdiction → String
  | federal => "federal"
  | state code => code

def parse (s : String) : Except TaxError Jurisdiction :=
  let cs := s.toList
  if String.ofList (cs.map Char.toLower) = "federal" then .ok federal
  else if cs.length = 2 ∧ cs.all Char.isAlpha then .ok (state (String.ofList (cs.map Char.toUpper)))
  else .error (.invalidName s .badJurisdiction)

/-- Federal forms stand before those of the states. -/
def order : Jurisdiction → Jurisdiction → Ordering
  | federal, federal => .eq
  | federal, state _ => .lt
  | state _, federal => .gt
  | state a, state b => compare a b

end Jurisdiction

/-- Which instances of a form there can be. -/
inductive Instancing where
  | single
  | free
  | fixed (tags : List String)
  deriving DecidableEq, Repr

def Instancing.tags? : Instancing → Option (List String)
  | fixed tags => some tags
  | _ => none

structure Form where
  name : String
  title : String := ""
  year : Nat := 2023
  jurisdiction : Jurisdiction := .federal
  /-- Where the form stands in the order of filing. -/
  sequence : Nat := 0
  instancing : Instancing := .single
  inputs : List InputSpec := []
  required : List Field := []
  optional : List Field := []
  /-- Whether an instance with these values has to be filed. -/
  needsFiling : ValueView → Bool := fun _ => true

namespace Form

/-- The first of the names that has stood before. -/
def firstRepeat? : List String → List String → Option String
  | _, [] => none
  | seen, name :: rest => if name ∈ seen then some name else firstRepeat? (name :: seen) rest

variable (form : Form)

def fields : List Field := form.required ++ form.optional

def field? (base : String) : Option Field := form.fields.find? fun f => f.name == base

/-- The inputs of an instance, under their qualified names. -/
def inputsAs (name : FormName) : List (String × InputSpec) :=
  form.inputs.map fun input => (name.qualify input.name, input)

/-- The qualified names of the required fields of an instance. -/
def requiredAs (name : FormName) : List String :=
  form.required.map fun field => name.qualify field.name

/-- A form is sound if its name and tags are valid and no two inputs and no two fields share a
name. -/
def check : Except TaxError Unit := do
  FormName.checkPart .form form.name
  for tag in (form.instancing.tags?).getD [] do
    FormName.checkPart .tag tag
  if let some name := firstRepeat? [] (form.inputs.map (·.name)) then
    throw (.duplicateName (form.name ++ "." ++ name ++ " (input)"))
  if let some name := firstRepeat? [] (form.fields.map (·.name)) then
    throw (.duplicateName (form.name ++ "." ++ name ++ " (field)"))

/-- Whether there can be the instance with this tag. -/
def checkTag (tag : Option String) : Except TaxError Unit :=
  match form.instancing, tag with
  | .single, some _ => .error (.invalidInstance form.name tag .notInstanced)
  | .fixed tags, some t =>
    if t ∈ tags then .ok () else .error (.invalidInstance form.name tag (.unlisted tags))
  | .fixed tags, none => .error (.invalidInstance form.name tag (.tagRequired tags))
  | _, _ => .ok ()

end Form

/-- The forms of one tax year, each name once. -/
structure Library where
  year : Nat
  forms : List Form

namespace Library

variable (library : Library)

def form? (name : String) : Option Form := library.forms.find? fun f => f.name == name

def register (form : Form) : Except TaxError Library :=
  if (library.form? form.name).isSome then .error (.duplicateName form.name)
  else .ok { library with forms := library.forms ++ [form] }

/-- The forms in the order of their names. -/
def inOrder : List Form := library.forms.mergeSort fun a b => Name.le a.name b.name

/-- The form that an instance belongs to, if there can be that instance. -/
def instantiate (qualified : String) : Except TaxError (FormName × Form) := do
  let name ← FormName.parse qualified
  match library.form? name.name with
  | none => throw (.unknownForm name.name)
  | some form =>
    form.checkTag name.tag
    return (name, form)

/-- The field with a qualified name, in whatever instance. -/
def field? (qualified : String) : Option Field := do
  let (instanceName, base) ← Name.split qualified
  match FormName.parse instanceName with
  | .ok name => (← library.form? name.name).field? base
  | .error _ => none

end Library
end TaxReturn
