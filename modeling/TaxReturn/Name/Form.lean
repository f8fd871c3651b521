import TaxReturn.Error
import TaxReturn.Text.Blank

/-!
Form names, base names and the qualified names built from them. Neither a form name nor a tag
holds a point, so the first point of a qualified name ends its form.
-/
namespace TaxReturn

/-- A form, or one tagged instance of it. -/
structure FormName where
  name : String
  tag : Option String
  deriving DecidableEq, Repr

namespace FormName

def checkPart (part : NamePart) (s : String) : Except TaxError Unit :=
  if s.isEmpty then .error (.invalidName s (.emptyPart part))
  else match s.toList.find? fun c => c == '.' || c == ':' || Text.isBlank c with
    | some c => .error (.invalidName s (.badCharacter part c))
    | none => .ok ()

def make (name : String) (tag : Option String) : Except TaxError FormName := do
  checkPart .form name
  if let some tag := tag then checkPart .tag tag
  return ⟨name, tag⟩

/-- Read `name` or `name:tag`; the first colon ends the name. -/
def parse (s : String) : Except TaxError FormName :=
  match Text.cut ':' s with
  | some (name, tag) => make name (some tag)
  | none => make s none

def text (f : FormName) : String :=
  match f.tag with
  | some tag => f.name ++ ":" ++ tag
  | none => f.name

def qualify (f : FormName) (base : String) : String := f.text ++ "." ++ base

end FormName

namespace Name

/-- Whether a field or an input may have this name within its form. -/
def isBase (base : String) : Bool :=
  !base.isEmpty && base.toList.all fun c => c != '.' && !Text.isBlank c

def checkBase (base : String) : Except TaxError Unit :=
  if isBase base then .ok () else .error (.invalidName base .badBase)

/-- The form and the rest of a qualified name; a bare name has no form. -/
def split (name : String) : Option (String × String) := Text.cut '.' name

/-- A bare key belongs to `form`; a qualified one stands as it is. -/
def scopeTo (form key : String) : String :=
  if key.toList.contains '.' then key else form ++ "." ++ key

end Name
end TaxReturn
