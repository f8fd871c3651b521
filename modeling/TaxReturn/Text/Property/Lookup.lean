import TaxReturn.Text.Property.Age
import TaxReturn.Text.Property.Boundary
import TaxReturn.Text.Property.Script

/-!
Sets of characters by the names of Unicode's properties: `Greek`, `Lu`, `Emoji`, or a property
with a value, as in `Script` and `Cyrillic`.
-/
namespace TaxReturn.Text.Property

/-- A property that a character has or has not, a category, or a script. -/
def named? (name : String) : Option CharSet :=
  ((binary? name).or (category? name)).or (script? name)

/-- A property that has a value. -/
def valued? (property value : String) : Option CharSet :=
  match looseName property with
  | "gc" | "generalcategory" => category? value
  | "sc" | "script" => script? value
  | "scx" | "scriptextensions" => scriptUse? value
  | "age" => age? value
  | "gcb" | "graphemeclusterbreak" => boundary? graphemeValues value
  | "wb" | "wordbreak" => boundary? wordValues value
  | "sb" | "sentencebreak" => boundary? sentenceValues value
  | _ => none

end TaxReturn.Text.Property
