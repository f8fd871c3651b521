import TaxReturn.Pattern.Track
import TaxReturn.Text.Blank
import TaxReturn.Text.CaseFold

/-!
The flags under which a piece of a pattern is read, and what they make of characters, sets and
anchors.
-/
namespace TaxReturn.Pattern

structure Flags where
  /-- `i`: the case of letters does not matter. -/
  anyCase : Bool := false
  /-- `m`: `^` and `$` stand for the ends of lines. -/
  lines : Bool := false
  /-- `s`: the point stands for line feeds as well. -/
  pointIsAny : Bool := false
  /-- `R`: carriage returns end lines as well. -/
  returns : Bool := false
  /-- `x`: blanks and notes, which begin with `#`, have no meaning. -/
  spaced : Bool := false
  /-- `-u`: classes have ASCII characters only. -/
  ascii : Bool := false
  /-- `U`: repetitions look for the shortest match first, unless they are marked. -/
  shortestFirst : Bool := false
  deriving DecidableEq, Repr

namespace Flags

def set? (flags : Flags) (value : Bool) : Char → Option Flags
  | 'i' => some { flags with anyCase := value }
  | 'm' => some { flags with lines := value }
  | 's' => some { flags with pointIsAny := value }
  | 'R' => some { flags with returns := value }
  | 'x' => some { flags with spaced := value }
  | 'u' => some { flags with ascii := !value }
  | 'U' => some { flags with shortestFirst := value }
  | _ => none

/-- Flags up to `:` or `)`; the second part says whether a group follows. A flag stands once, and
one follows each hyphen. -/
def read? (flags : Flags) (value : Bool) (seen : List Char) :
    List Char → Option (Flags × Bool × List Char)
  | ':' :: cs => if seen.head? = some '-' then none else some (flags, true, cs)
  | ')' :: cs => if seen.isEmpty || seen.head? = some '-' then none else some (flags, false, cs)
  | c :: cs =>
    if c ∈ seen then none
    else if c = '-' then flags.read? false ('-' :: seen) cs
    else match flags.set? value c with
      | some flags => flags.read? value (c :: seen) cs
      | none => none
  | [] => none

variable (flags : Flags)

/-- Leave out blanks and notes; `inNote` says whether a note has begun. -/
def skipNotes (inNote : Bool) : List Char → List Char
  | [] => []
  | c :: cs =>
    if inNote then skipNotes (c != '\n') cs
    else if c = '#' then skipNotes true cs
    else if Text.isBlank c then skipNotes false cs
    else c :: cs

/-- Go on to what has a meaning. -/
def skip (cs : List Char) : List Char := if flags.spaced then skipNotes false cs else cs

/-- The text up to a closing brace, as far as it has a meaning, and what follows the brace. -/
def braced? (inNote : Bool) : List Char → Option (List Char × List Char)
  | [] => none
  | c :: cs =>
    if inNote then braced? (c != '\n') cs
    else if flags.spaced && c = '#' then braced? true cs
    else if flags.spaced && Text.isBlank c then braced? false cs
    else if c = '\x7d' then some ([], cs)
    else (braced? false cs).map fun r => (c :: r.1, r.2)

/-- The set that is meant where a set is given, its case aside. -/
def fold (set : Text.CharSet) : Text.CharSet :=
  if !flags.anyCase then set else if flags.ascii then set.anyAsciiCase else set.anyCase

/-- A set or its complement. The complement of an ASCII set would not be one. -/
def side? (inverse : Bool) (set : Text.CharSet) : Option Text.CharSet :=
  if !inverse then some set else if flags.ascii then none else some set.compl

def digit : Text.CharSet := if flags.ascii then asciiDigitSet else digitSet

def blank : Text.CharSet := if flags.ascii then asciiBlankSet else blankSet

def word : Text.CharSet := if flags.ascii then asciiWordSet else wordSet

/-- One character of a set. -/
def one (set : Text.CharSet) : Pattern := ofSet set flags.ascii

/-- A character that stands for itself. -/
def char (c : Char) : Pattern := flags.one (flags.fold (.single c))

/-- What the point stands for. -/
def point? : Option Pattern :=
  if flags.ascii then none
  else if flags.pointIsAny then some (ofSet .all)
  else if flags.returns then some (ofSet (Text.CharSet.ofList ['\n', '\r']).compl)
  else some (ofSet (Text.CharSet.single '\n').compl)

def lineStart : Anchor := if flags.lines then .lineStart flags.returns else .textStart

def lineEnd : Anchor := if flags.lines then .lineEnd flags.returns else .textEnd

end Flags
end TaxReturn.Pattern
