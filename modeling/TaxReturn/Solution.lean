import TaxReturn.Form
import TaxReturn.Json.Printer
import TaxReturn.Json.Reader

/-!
Solutions: for every form taken up, the text of each of its fields that was computed.
-/
namespace TaxReturn

structure Solution where
  forms : Sections

namespace Solution

def empty : Solution := ⟨.empty⟩

instance : Inhabited Solution := ⟨empty⟩

variable (solution : Solution)

def insert (qualified encoded : String) : Except TaxError Solution :=
  match Name.split qualified with
  | none => .error (.invalidName qualified .unqualifiedField)
  | some (form, base) => .ok ⟨solution.forms.set form base encoded⟩

def touch (form : String) : Solution := ⟨solution.forms.touch form⟩

def get? (form field : String) : Option String := solution.forms.get? form field

def getQualified? (qualified : String) : Option String :=
  (Name.split qualified).bind fun p => solution.get? p.1 p.2

def toList : List (String × List (String × String)) := solution.forms.toList

def fieldCount : Nat := solution.toList.foldl (fun n p => n + p.2.length) 0

/-- A form without fields has no section. -/
def toSections : Sections := ⟨solution.forms.table.filter fun _ fields => !fields.isEmpty⟩

def text : String := solution.toSections.text

def ofText (text : String) : Except TaxError Solution := (Sections.parse text).map (⟨·⟩)

def toJson : Json :=
  .object (solution.toList.map fun p => (p.1, .object (p.2.map fun f => (f.1, .text f.2))))

/-- Read a JSON document; of members with one name the last counts. -/
def ofJson? (text : String) : Option Solution :=
  (Json.Reader.nested? text).map fun members =>
    ⟨⟨Std.ExtTreeMap.ofList (members.map fun m => (m.1, Std.ExtTreeMap.ofList m.2 Name.order))
      Name.order⟩⟩

end Solution

namespace Library

variable (library : Library)

/-- Read one field of a solution back. -/
def decodeField (form base raw : String) : Except TaxError (String × Value) :=
  let qualified := form ++ "." ++ base
  match library.field? qualified with
  | none => .error (.unknownField qualified "solution")
  | some field => (field.decode qualified raw).map (qualified, ·)

/-- Commit fields of a solution on top of others. -/
def decodeFields (values : ValueStore) :
    List (String × String × String) → Except TaxError ValueStore
  | [] => .ok values
  | (form, base, raw) :: rest =>
    match library.decodeField form base raw with
    | .error e => .error e
    | .ok (qualified, value) => decodeFields (values.commit qualified value) rest

/-- The values that a solution was written from. -/
def decode (solution : Solution) : Except TaxError ValueStore :=
  library.decodeFields .empty
    (solution.toList.flatMap fun p => p.2.map fun f => (p.1, f.1, f.2))

end Library
end TaxReturn
