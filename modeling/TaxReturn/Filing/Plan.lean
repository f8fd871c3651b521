import TaxReturn.Filing.Printed
import TaxReturn.Solution

/-!
What is filed: the forms of a solution that have to be, in the order in which a return is put
together, and the entries on their printed forms.
-/
namespace TaxReturn

/-- One form to file, with its entries by the names of the fillable fields. -/
structure FiledForm where
  form : String
  title : String
  jurisdiction : Jurisdiction
  sequence : Nat
  file : Option String
  entries : List (String × Entry)
  deriving DecidableEq, Repr

inductive FilingError where
  | solution (error : TaxError)
  | entry (form pdf field value : String) (fault : EntryFault)
  deriving DecidableEq, Repr

def FilingError.message : FilingError → String
  | .solution error => error.message
  | .entry form pdf field value fault =>
    form ++ ": cannot fill " ++ pdf ++ " from " ++ field ++ " = " ++ Text.quote value ++ ": " ++
      fault.text

namespace FiledForm

/-- Federal before state, then by sequence, then by name. -/
def order (a b : FiledForm) : Ordering :=
  (a.jurisdiction.order b.jurisdiction).then
    ((compare a.sequence b.sequence).then (Name.order a.form b.form))

def entryJson : Entry → Json
  | .text s => .text s
  | .checked b => .bool b

def toJson (filed : FiledForm) : Json :=
  .object [
    ("form", .text filed.form),
    ("title", .text filed.title),
    ("jurisdiction", .text filed.jurisdiction.text),
    ("sequence", .number filed.sequence),
    ("file", (filed.file.map Json.text).getD .null),
    ("fields", .list (filed.entries.map fun e =>
      .object [("pdf", .text e.1), ("value", entryJson e.2)]))]

end FiledForm

namespace PrintedForm

/-- The entries for those fillable fields whose field is in the solution. -/
def entries (form : String) (encoded : List (String × String)) :
    List PrintedField → Except FilingError (List (String × Entry))
  | [] => .ok []
  | printed :: rest =>
    match encoded.lookup printed.field with
    | none => entries form encoded rest
    | some raw =>
      match printed.entry raw with
      | .error fault => .error (.entry form printed.pdf printed.field raw fault)
      | .ok entry => (entries form encoded rest).map ((printed.pdf, entry) :: ·)

end PrintedForm

namespace Library

variable (library : Library) (printed : PrintedForms) (values : ValueStore)

/-- What to file of one form of a solution, if anything. -/
def file? (qualified : String) (encoded : List (String × String)) :
    Except FilingError (Option FiledForm) :=
  match FormName.parse qualified with
  | .error e => .error (.solution e)
  | .ok name =>
    match library.form? name.name with
    | none => .error (.solution (.unknownForm name.name))
    | some form =>
      if form.needsFiling ⟨qualified, values⟩ then
        let paper := printed.get? name.name
        (PrintedForm.entries qualified encoded ((paper.map (·.fields)).getD [])).map fun entries =>
          some {
            form := qualified
            title := form.title
            jurisdiction := form.jurisdiction
            sequence := form.sequence
            file := paper.map (·.file)
            entries }
      else .ok none

/-- What to file of some of the forms of a solution, in the order they are given. -/
def fileAll : List (String × List (String × String)) → Except FilingError (List FiledForm)
  | [] => .ok []
  | (qualified, encoded) :: rest =>
    match library.file? printed values qualified encoded with
    | .error e => .error e
    | .ok filed => (fileAll rest).map (filed.toList ++ ·)

/-- What to file of a solution, in the order of filing. -/
def plan (solution : Solution) : Except FilingError (List FiledForm) :=
  match library.decode solution with
  | .error e => .error (.solution e)
  | .ok values =>
    (library.fileAll printed values solution.toList).map fun filed =>
      filed.mergeSort fun a b => (a.order b).isLE

end Library
end TaxReturn
