import TaxReturn.Value.Basic
import TaxReturn.Name.Order

/-!
The values committed so far. A committed value is never replaced, and asking for one that is not
there names the field that has to come first.
-/
namespace TaxReturn

structure ValueStore where
  table : Name.Table Value

namespace ValueStore

def empty : ValueStore := ⟨∅⟩

instance : Inhabited ValueStore := ⟨empty⟩

variable (store : ValueStore)

def get? (name : String) : Option Value := store.table[name]?

def get (name : String) : Except Signal Value :=
  match store.get? name with
  | some value => .ok value
  | none => .error (.unmet name)

def has (name : String) : Bool := (store.get? name).isSome

/-- Commit a value, unless there is one. -/
def commit (name : String) (value : Value) : ValueStore := ⟨store.table.insertIfNew name value⟩

def toList : List (String × Value) := store.table.toList

def size : Nat := store.table.size

def isEmpty : Bool := store.table.isEmpty

end ValueStore
end TaxReturn
