import TaxReturn.Form

/-!
Tables of the forms of a library and of the inputs of a form. A column is as wide as the longest
name in bytes, and names are filled up to it character by character.
-/
namespace TaxReturn

/-- Blanks behind a text, up to a number of characters. -/
def fillUp (width : Nat) (s : String) : String :=
  s ++ String.ofList (List.replicate (width - s.length) ' ')

/-- The most bytes that one of the names has. -/
def columnWidth (names : List String) : Nat := (names.map String.utf8ByteSize).foldl max 0

def Instancing.label : Instancing → String
  | single => "single"
  | free => "free"
  | fixed tags => Text.join "|" tags

namespace Library

variable (library : Library)

/-- The forms in name order: name, instances, jurisdiction and title. -/
def listForms : String :=
  let width := columnWidth (library.inOrder.map (·.name))
  String.join (library.inOrder.map fun form =>
    fillUp width form.name ++ "  " ++ fillUp 16 form.instancing.label ++ "  " ++
      fillUp 7 form.jurisdiction.text ++ "  " ++ form.title ++ "\n")

/-- The inputs of a form, which may be given as an instance. -/
def listInputs (qualified : String) : Except TaxError String := do
  let name ← FormName.parse qualified
  match library.form? name.name with
  | none => throw (.unknownForm name.name)
  | some form =>
    let width := columnWidth (form.inputs.map (·.name))
    return form.name ++ " (" ++ form.title ++ ")\n" ++
      String.join (form.inputs.map fun input =>
        "  " ++ fillUp width input.name ++ "  " ++ input.kind.label ++ ": " ++
          input.description ++ "\n")

end Library
end TaxReturn
