import TaxReturn.Pattern.Machine
import TaxReturn.Pattern.Class
import TaxReturn.Text.Alphabetic
import TaxReturn.Text.DecimalDigit

/-!
Reading a pattern. Besides literals, classes, groups, alternatives and repetitions there are
escapes, anchors and flags. What is none of these is refused, and so are a group name that stands
twice, what lies too deep, and what takes too much room.
-/
namespace TaxReturn.Pattern

/-- A piece of a pattern as it is read: how deep its parts lie, and the names of its groups. A
piece that only sets flags cannot be repeated. -/
structure Piece where
  pattern : Pattern
  depth : Nat := 0
  names : List String := []
  repeatable : Bool := true
  deriving Repr

namespace Piece

/-- How deep several pieces lie side by side: one deeper than the deepest, if there are two. -/
def depthOf (pieces : List Piece) : Nat :=
  match pieces with
  | [] => 0
  | [piece] => piece.depth
  | _ => (pieces.map depth).foldl max 0 + 1

/-- Pieces one after another. -/
def inRow (pieces : List Piece) : Piece where
  pattern := concat (pieces.map pattern)
  depth := depthOf pieces
  names := pieces.flatMap names

/-- Pieces as alternatives. -/
def inChoice (pieces : List Piece) : Piece where
  pattern := choice (pieces.map pattern)
  depth := depthOf pieces
  names := pieces.flatMap names

end Piece

/-- A count, which may have blanks around it. -/
def count? (cs : List Char) : Option Nat :=
  let cs := Text.trimChars cs
  if cs.isEmpty || !cs.all Char.isDigit then none
  else
    let n := cs.foldl (fun n c => 10 * n + (c.toNat - '0'.toNat)) 0
    if n < 0x100000000 then some n else none

/-- Bounds as they stand in braces. -/
def bounds? (cs : List Char) : Option (Nat × Option Nat) :=
  match Text.cutChars ',' cs with
  | none => (count? cs).map fun n => (n, some n)
  | some (least, []) => (count? least).map fun n => (n, none)
  | some (least, most) => do
    let m ← count? least
    let n ← count? most
    if m ≤ n then some (m, some n) else none

/-- A repetition from its first sign on: its bounds and what follows it. -/
def repetition? (flags : Flags) : List Char → Option (Nat × Option Nat × List Char)
  | '*' :: cs => some (0, none, cs)
  | '+' :: cs => some (1, none, cs)
  | '?' :: cs => some (0, some 1, cs)
  | '\x7b' :: cs => do
    let (inner, rest) ← flags.braced? false cs
    let (least, most) ← bounds? inner
    some (least, most, flags.skip rest)
  | _ => none

/-- A repetition may be followed by a mark that changes which match is looked for first. -/
def mark : List Char → Bool × List Char
  | '?' :: cs => (true, cs)
  | cs => (false, cs)

def startsRepetition : List Char → Bool
  | c :: _ => c == '*' || c == '+' || c == '?' || c == '\x7b'
  | [] => false

def isNameStart (c : Char) : Bool := c == '_' || Text.isAlphabetic c

/-- The numbers that are no decimal digits. -/
def otherNumbers : Text.CharSet := Text.Property.ofCategories ["Nl", "No"]

def isNameChar (c : Char) : Bool :=
  isNameStart c || Text.isDecimalDigit c || otherNumbers.contains c ||
    c == '.' || c == '[' || c == ']'

/-- A group name up to its `>`. -/
def name? (cs : List Char) : Option (String × List Char) :=
  match cs.takeWhile (· != '>'), cs.dropWhile (· != '>') with
  | c :: name, _ :: rest =>
    if isNameStart c && name.all isNameChar then some (String.ofList (c :: name), rest) else none
  | _, _ => none

/-- A piece that is a single sign. -/
def sign? (flags : Flags) : List Char → Option (Pattern × List Char)
  | [] => none
  | '.' :: cs => flags.point?.map (·, cs)
  | '^' :: cs => some (anchor flags.lineStart, cs)
  | '$' :: cs => some (anchor flags.lineEnd, cs)
  | '\\' :: cs => do
    match ← Escape.read? flags cs with
    | (.char c, cs) => some (flags.char c, cs)
    | (.set set, cs) => some (flags.one set, cs)
    | (.anchor a, cs) => some (anchor a, cs)
  | c :: cs => some (flags.char c, cs)

mutual

/-- Alternatives on top of those read, the last one first, up to the end of the text or of the
group. -/
def readChoice? : Nat → Flags → List Piece → List Char → Option (Piece × List Char)
  | 0, _, _, _ => none
  | fuel + 1, flags, before, cs =>
    match readRow? fuel flags [] cs with
    | some (piece, flags, '|' :: cs) => readChoice? fuel flags (piece :: before) cs
    | some (piece, _, cs) =>
      some (if before.isEmpty then piece else .inChoice (piece :: before).reverse, cs)
    | none => none

/-- A group from behind its parenthesis, or a piece that sets flags for what follows. -/
def readGroup? : Nat → Flags → List Char → Option (Piece × Flags × List Char)
  | 0, _, _ => none
  | fuel + 1, flags, cs =>
    let inside := fun (inner : Flags) (names : List String) (remember : Bool) (cs : List Char) =>
      match readChoice? fuel inner [] cs with
      | some (p, ')' :: cs) =>
        let pattern := if remember then group p.pattern else p.pattern
        some (({ pattern, depth := p.depth + 1, names := names ++ p.names } : Piece), flags, cs)
      | _ => none
    match flags.skip cs with
    | '?' :: 'P' :: '<' :: cs | '?' :: '<' :: cs =>
      match name? cs with
      | some (name, cs) => inside flags [name] true cs
      | none => none
    | '?' :: cs =>
      match flags.read? true [] cs with
      | some (inner, true, cs) => inside inner [] false cs
      | some (inner, false, cs) => some ({ pattern := nil, repeatable := false }, inner, cs)
      | none => none
    | cs => inside flags [] true cs

/-- Pieces on top of those read, the last one first. -/
def readRow? : Nat → Flags → List Piece → List Char → Option (Piece × Flags × List Char)
  | 0, _, _, _ => none
  | fuel + 1, flags, pieces, cs =>
    match flags.skip cs with
    | [] => some (.inRow pieces.reverse, flags, [])
    | ')' :: cs => some (.inRow pieces.reverse, flags, ')' :: cs)
    | '|' :: cs => some (.inRow pieces.reverse, flags, '|' :: cs)
    | '(' :: cs =>
      match readGroup? fuel flags cs with
      | some (piece, flags, cs) => readRow? fuel flags (piece :: pieces) cs
      | none => none
    | '[' :: cs =>
      match Class.read? flags fuel cs with
      | some (set, depth, cs) =>
        readRow? fuel flags ({ pattern := flags.one set, depth } :: pieces) cs
      | none => none
    | cs =>
      if startsRepetition cs then
        match pieces, repetition? flags cs with
        | last :: before, some (least, most, cs) =>
          if last.repeatable then
            let (marked, cs) := mark cs
            let pattern := last.pattern.repeated least most (marked != flags.shortestFirst)
            readRow? fuel flags ({ last with pattern, depth := last.depth + 1 } :: before) cs
          else none
        | _, _ => none
      else
        match sign? flags cs with
        | some (pattern, cs) => readRow? fuel flags ({ pattern } :: pieces) cs
        | none => none

end

/-- How deep a part may lie. -/
def depthLimit : Nat := 250

/-- Read a whole pattern. Each step takes a character or opens one of the parts above, so four
steps a character are enough. -/
def read? (source : String) : Option Pattern :=
  let cs := source.toList
  match readChoice? (4 * cs.length + 8) {} [] cs with
  | some (piece, []) =>
    if piece.depth ≤ depthLimit ∧ piece.names.Nodup ∧ piece.pattern.fits then some piece.pattern
    else none
  | _ => none

/-- The pattern that a whole text has to match. -/
def whole? (source : String) : Option Pattern := read? ("^(?:" ++ source ++ ")$")

end TaxReturn.Pattern
