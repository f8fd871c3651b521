import TaxReturn.Name.Order
import TaxReturn.Text.Blank
import TaxReturn.Text.Split

/-!
Sectioned text: `[section]` headers, `key = value` lines, blank lines and comments that start with
`#` or `;`. A section may be opened again, but a key stands in it once. Writing puts sections and
keys in the order of names.
-/
namespace TaxReturn

/-- The sections with their keys and values. -/
structure Sections where
  table : Name.Table (Name.Table String)

namespace Sections

def empty : Sections := ⟨∅⟩

instance : Inhabited Sections := ⟨empty⟩

variable (s : Sections)

def get? (sectionName key : String) : Option String :=
  s.table[sectionName]?.bind fun entries => entries[key]?

/-- Have a section of this name, with or without keys. -/
def touch (sectionName : String) : Sections :=
  ⟨s.table.alter sectionName fun entries => some (entries.getD ∅)⟩

/-- Set one value, opening the section if there is none. -/
def set (sectionName key value : String) : Sections :=
  ⟨s.table.alter sectionName fun entries => some ((entries.getD ∅).insert key value)⟩

def names : List String := s.table.keys

def toList : List (String × List (String × String)) :=
  s.table.toList.map fun p => (p.1, p.2.toList)

def size : Nat := s.table.size

def isEmpty : Bool := s.table.isEmpty

/-- What a line says, once the blanks around it are gone. -/
inductive Line where
  | skipped
  | header (name : List Char)
  | entry (key value : List Char)
  | bad (fault : LineFault)
  deriving DecidableEq, Repr

namespace Line

/-- The name in a header, from behind its opening bracket. -/
def ofHeader (cs : List Char) : Line :=
  match cs.reverse with
  | ']' :: name =>
    let name := Text.trimChars name.reverse
    if name.isEmpty then bad .emptySection else header name
  | _ => bad .unterminatedHeader

def ofEntry (cs : List Char) : Line :=
  match Text.cutChars '=' cs with
  | none => bad .noAssignment
  | some (key, value) =>
    if (Text.trimChars key).isEmpty then bad .emptyKey
    else entry (Text.trimChars key) (Text.trimChars value)

def read (line : List Char) : Line :=
  match Text.trimChars line with
  | [] | '#' :: _ | ';' :: _ => skipped
  | '[' :: cs => ofHeader cs
  | cs => ofEntry cs

end Line

/-- The table so far and the section that is open. -/
structure Reading where
  sections : Sections
  current : Option String

/-- Take in one line. -/
def Reading.step (r : Reading) (line : List Char) : Except LineFault Reading :=
  match Line.read line with
  | .skipped => .ok r
  | .bad fault => .error fault
  | .header name => .ok ⟨r.sections.touch (String.ofList name), some (String.ofList name)⟩
  | .entry key value =>
    match r.current with
    | none => .error .outsideSection
    | some name =>
      let key := String.ofList key
      if (r.sections.get? name key).isSome then .error (.duplicateKey key name)
      else .ok { r with sections := r.sections.set name key (String.ofList value) }

/-- Take in lines, of which the first has the number `n`. -/
def readLines (r : Reading) (n : Nat) : List (List Char) → Except TaxError Reading
  | [] => .ok r
  | line :: rest =>
    match r.step line with
    | .ok r => readLines r (n + 1) rest
    | .error fault => .error (.badLine n fault)

def parse (text : String) : Except TaxError Sections :=
  (readLines ⟨empty, none⟩ 1 (Text.piecesOf '\n' text.toList)).map (·.sections)

def sectionText (name : String) (entries : List (String × String)) : String :=
  "[" ++ name ++ "]\n" ++
    String.join (entries.map fun e => e.1 ++ " = " ++ e.2 ++ "\n")

/-- The sections as text, with a blank line between them. -/
def text : String :=
  Text.join "\n" (s.toList.map fun p => sectionText p.1 p.2)

end Sections
end TaxReturn
