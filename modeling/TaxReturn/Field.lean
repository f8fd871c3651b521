import TaxReturn.View

/-!
A field: a name within its form, a kind, and how its value is computed.
-/
namespace TaxReturn

structure Field where
  name : String
  kind : ValueKind
  compute : Compute Value

namespace Field

/-- A field with a valid base name. -/
def make (name : String) (kind : ValueKind) (compute : Compute Value) : Except TaxError Field := do
  Name.checkBase name
  return ⟨name, kind, compute⟩

variable (field : Field)

/-- The value to commit under the name `qualified`: what is computed, made canonical. -/
def evaluate (qualified : String) (scope : Scope) : Except Signal Value := do
  let value ← field.compute scope
  match field.kind.canonicalize value with
  | .ok value => .ok value
  | .error found => .error (.fatal (.wrongType qualified field.kind.label found.text))

def encode (value : Value) : String := field.kind.encode value

def decode (qualified raw : String) : Except TaxError Value :=
  match field.kind.decode raw with
  | .ok value => .ok value
  | .error fault => .error (.undecodable qualified raw fault)

end Field
end TaxReturn
