import TaxReturn.Error
import TaxReturn.Json.Printer
import TaxReturn.Value.Scalar

/-!
Printed forms: which fillable field of the paper takes which field of the solution, and what is
entered there.
-/
namespace TaxReturn

/-- What is entered in a fillable field. -/
inductive Entry where
  | text (text : String)
  | checked (on : Bool)
  deriving DecidableEq, Repr

/-- A fillable field. Boxes of a group that have no names of their own are told apart by the value
that checks them. -/
inductive PrintedField where
  | text (pdf field : String)
  | button (pdf field : String)
  | choice (pdf field : String) (exports : List (String × String))
  | box (pdf field value : String)
  deriving DecidableEq, Repr

inductive EntryFault where
  | notBoolean
  | noExport
  deriving DecidableEq, Repr

def EntryFault.text : EntryFault → String
  | .notBoolean => "not a boolean"
  | .noExport => "no export value for this key"

namespace PrintedField

/-- The name of the fillable field. -/
def pdf : PrintedField → String
  | text pdf _ | button pdf _ | choice pdf _ _ | box pdf _ _ => pdf

/-- The name of the field of the solution. -/
def field : PrintedField → String
  | text _ field | button _ field | choice _ field _ | box _ field _ => field

def entry (printed : PrintedField) (encoded : String) : Except EntryFault Entry :=
  match printed with
  | text _ _ => .ok (.text encoded)
  | button _ _ =>
    if (Text.trimChars encoded.toList).isEmpty then .ok (.checked false)
    else match Scalar.parseBool encoded with
      | some b => .ok (.checked b)
      | none => .error .notBoolean
  | choice _ _ exports =>
    if encoded.isEmpty then .ok (.text "")
    else match exports.lookup encoded with
      | some value => .ok (.text value)
      | none => .error .noExport
  | box _ _ value => .ok (.checked (encoded == value))

end PrintedField

/-- A printed form: the file it is in and its fillable fields. -/
structure PrintedForm where
  form : String
  file : String
  fields : List PrintedField
  deriving DecidableEq, Repr

/-- Printed forms, each form once. -/
structure PrintedForms where
  forms : List PrintedForm

namespace PrintedForms

def empty : PrintedForms := ⟨[]⟩

variable (printed : PrintedForms)

def get? (form : String) : Option PrintedForm := printed.forms.find? fun p => p.form == form

/-- Add a printed form in place of the one that there was. -/
def insert (form : PrintedForm) : PrintedForms :=
  ⟨form :: printed.forms.filter fun p => p.form != form.form⟩

def size : Nat := printed.forms.length

end PrintedForms
end TaxReturn
