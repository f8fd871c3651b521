import TaxReturn.Text.CharSet

/-!
Tables of named sets of characters. A name counts whatever the case of its letters and whatever
blanks, hyphens and low lines it has.
-/
namespace TaxReturn.Text.Property

/-- A name as it is compared: lower-case ASCII without blanks, hyphens, low lines and a leading
`is`. The name that would become `c` by that stays as it is. -/
def looseName (name : String) : String :=
  let isSign := fun (c : Char) => c == ' ' || c == '_' || c == '-'
  let loose := fun (cs : List Char) =>
    (cs.filter fun c => c.toNat < 128 && !isSign c).map Char.toLower
  match name.toList with
  | i :: s :: rest =>
    if i.toLower = 'i' ∧ s.toLower = 's' then
      if loose rest = ['c'] then "isc" else String.ofList (loose rest)
    else String.ofList (loose (i :: s :: rest))
  | cs => String.ofList (loose cs)

/-- Whether one of the names, which have blanks between them, is meant. -/
def isNamed (name names : String) : Bool :=
  (names.splitOn " ").any fun n => looseName n == looseName name

/-- Sets in their written form, each with its names. -/
abbrev Table := List (String × List String)

namespace Table

variable (table : Table)

/-- The set that a name stands for. -/
def find (name : String) : Option CharSet :=
  (table.find? fun row => isNamed name row.1).map fun row => .ofText row.2

/-- The set of a name that is in the table. -/
def named (name : String) : CharSet := (table.find name).getD .none

end Table
end TaxReturn.Text.Property
