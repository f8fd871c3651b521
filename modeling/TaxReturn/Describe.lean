import TaxReturn.Solver.Basic

/-!
One-line descriptions of fields, forms and solvers, for whoever looks for a fault in a library.
-/
namespace TaxReturn

def Text.quoteList (items : List String) : String :=
  "[" ++ Text.join ", " (items.map Text.quote) ++ "]"

/-- A description: a title and named parts. -/
def describe (title : String) (parts : List (String × String)) (more : Bool) : String :=
  title ++ " \x7b " ++ Text.join ", " (parts.map fun p => p.1 ++ ": " ++ p.2) ++
    (if more then ", .. \x7d" else " \x7d")

def ValueKind.describe : ValueKind → String
  | text => "Text"
  | ssn => "Ssn"
  | boolean => "Boolean"
  | integer => "Integer"
  | float => "Float"
  | decimal places => "Decimal(" ++ toString places ++ ")"
  | enumeration keys => "Enum(" ++ Text.quoteList keys ++ ")"

def Field.describe (field : Field) : String :=
  TaxReturn.describe "FieldSpec"
    [("name", Text.quote field.name), ("kind", field.kind.describe)] true

def Jurisdiction.describe : Jurisdiction → String
  | federal => "Federal"
  | state code => "State(" ++ Text.quote code ++ ")"

def Instancing.describe : Instancing → String
  | single => "Single"
  | free => "Free"
  | fixed tags => "Fixed(" ++ Text.quoteList tags ++ ")"

def Form.describe (form : Form) : String :=
  TaxReturn.describe "FormSpec"
    [("name", Text.quote form.name),
      ("year", toString form.year),
      ("jurisdiction", form.jurisdiction.describe),
      ("sequence", toString form.sequence),
      ("instancing", form.instancing.describe),
      ("inputs", toString form.inputs.length),
      ("required", toString form.required.length),
      ("optional", toString form.optional.length)] false

def Solver.describe (s : Solver) : String :=
  TaxReturn.describe "Solver"
    [("year", toString s.library.year),
      ("forms", toString s.forms.size),
      ("values", toString s.values.size),
      ("unattempted", toString s.unattempted.size),
      ("unimplemented", Text.quoteList s.unimplemented),
      ("refused_input", Scalar.boolText s.refused),
      ("solved", Scalar.boolText s.solved),
      ("done", Scalar.boolText s.done)] true

end TaxReturn
