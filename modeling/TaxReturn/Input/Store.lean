import TaxReturn.Input.Spec
import TaxReturn.Sections

/-!
What the filer gave, as text under qualified names, and how each input is read. A given value is
never replaced.
-/
namespace TaxReturn

structure InputStore where
  given : Sections
  specs : Name.Table InputSpec

namespace InputStore

def ofSections (given : Sections) : InputStore := ⟨given, ∅⟩

def ofText (text : String) : Except TaxError InputStore := (Sections.parse text).map ofSections

variable (store : InputStore)

def text : String := store.given.text

/-- Say how inputs are read; for a name that is known already the new way holds. -/
def addSpecs (specs : List (String × InputSpec)) : InputStore :=
  { store with specs := store.specs.insertMany specs }

def spec? (name : String) : Option InputSpec := store.specs[name]?

def raw? (name : String) : Option String :=
  (Name.split name).bind fun p => store.given.get? p.1 p.2

def has (name : String) : Bool := (store.raw? name).isSome

/-- The value of an input; one that is not given stops the reader. -/
def parse (name : String) : Except Signal Value :=
  match store.spec? name with
  | none => .error (.fatal (.missingInputSpec name))
  | some spec =>
    match store.raw? name with
    | none => .error (.missingInput name)
    | some raw =>
      match spec.parse raw with
      | .ok value => .ok value
      | .error fault => .error (.fatal (.invalidInput name raw fault))

/-- Whether a value is given that can be read. -/
def isValid (name : String) : Except TaxError Bool :=
  match store.spec? name with
  | none => .error (.missingInputSpec name)
  | some spec => .ok ((store.raw? name).any spec.accepts)

/-- Give a value, and say whether there was none before. -/
def give (name raw : String) : Except TaxError (Bool × InputStore) :=
  match Name.split name with
  | none => .error (.invalidName name .unqualifiedInput)
  | some (form, key) =>
    if (store.given.get? form key).isSome then .ok (false, store)
    else .ok (true, { store with given := store.given.set form key raw })

/-- The tag of a section that holds an instance of the form. -/
def tagOf? (form sectionName : String) : Option String :=
  match FormName.parse sectionName with
  | .ok name => if name.name = form then name.tag else none
  | .error _ => none

/-- The instances of a form that are given as sections, in the order of their tags. -/
def instances (form : String) : List String :=
  Name.sort (store.given.names.filterMap (tagOf? form))

end InputStore
end TaxReturn
