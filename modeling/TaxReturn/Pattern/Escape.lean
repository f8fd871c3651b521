import TaxReturn.Pattern.Flags
import TaxReturn.Text.Property.Lookup

/-!
What stands behind a backslash: a character, a set of characters, or an anchor.
-/
namespace TaxReturn.Pattern

/-- What a pattern has where a character may stand. -/
inductive Atom where
  | char (c : Char)
  | set (set : Text.CharSet)
  | anchor (anchor : Anchor)
  deriving Repr

namespace Escape

variable (flags : Flags)

/-- The digits of a code point of fixed length. -/
def digits? : (width : Nat) → List Char → Option (List Char × List Char)
  | 0, cs => some ([], cs)
  | width + 1, c :: cs =>
    if (Text.hexDigit? c).isSome then
      (digits? width (flags.skip cs)).map fun r => (c :: r.1, r.2)
    else none
  | _ + 1, [] => none

/-- A code point in braces, or in exactly `width` digits. -/
def codePoint? (width : Nat) (cs : List Char) : Option (Char × List Char) :=
  match flags.skip cs with
  | '\x7b' :: cs => do
    let (digits, rest) ← flags.braced? false cs
    let c ← (Text.hexValue? digits).bind Text.charOf?
    some (c, flags.skip rest)
  | cs => do
    let (digits, rest) ← digits? flags width cs
    let c ← (Text.hexValue? digits).bind Text.charOf?
    -- two digits are a byte where a class has ASCII characters only
    if flags.ascii && width = 2 && 128 ≤ c.toNat then none else some (c, rest)

/-- The value that a property is asked for stands behind the first `!=`, else behind the first
colon, else behind the first `=`; the first of these also inverts. -/
def splitProperty (cs : List Char) : Bool × String × Option String :=
  let cutAt := fun (sep : Char) => (Text.cutChars sep cs).map fun r =>
    (false, String.ofList r.1, some (String.ofList r.2))
  let rec cutNot : List Char → List Char → Option (Bool × String × Option String)
    | before, '!' :: '=' :: after =>
      some (true, String.ofList before.reverse, some (String.ofList after))
    | before, c :: after => cutNot (c :: before) after
    | _, [] => none
  (((cutNot [] cs).or (cutAt ':')).or (cutAt '=')).getD (false, String.ofList cs, none)

/-- The set that a property stands for, from behind its `p`. -/
def property? (inverse : Bool) (cs : List Char) : Option (Text.CharSet × List Char) := do
  if flags.ascii then none
  else
    let ((inverts, name, value), rest) ← match flags.skip cs with
      | '\x7b' :: cs => (flags.braced? false cs).map fun r => (splitProperty r.1, r.2)
      | '\\' :: _ => none
      | c :: cs => some ((false, c.toString, none), flags.skip cs)
      | [] => none
    let set ← match value with
      | some value => Text.Property.valued? name value
      | none => Text.Property.named? name
    some (← flags.side? (inverse != inverts) (flags.fold set), rest)

/-- A word edge, from behind its `b`. A kind of edge may stand in braces; what else braces hold is
left to the reader of repetitions. -/
def wordEdge? (cs : List Char) : Option (Anchor × List Char) :=
  let isKindChar := fun (c : Char) => c.isAlpha || c == '-'
  match cs with
  | '\x7b' :: inner =>
    if (flags.skip inner).head?.any isKindChar then do
      let (kind, rest) ← flags.braced? false inner
      match String.ofList kind with
      | "start" => some (.wordStart flags.ascii, rest)
      | "end" => some (.wordEnd flags.ascii, rest)
      | "start-half" => some (.noWordBefore flags.ascii, rest)
      | "end-half" => some (.noWordAfter flags.ascii, rest)
      | _ => none
    else some (.wordEdge flags.ascii, cs)
  | _ => some (.wordEdge flags.ascii, cs)

/-- The sets that have a letter of their own. -/
def letterSet? (flags : Flags) : Char → Option (Option Text.CharSet)
  | 'd' => some (some flags.digit)
  | 'D' => some (flags.side? true flags.digit)
  | 's' => some (some flags.blank)
  | 'S' => some (flags.side? true flags.blank)
  | 'w' => some (some flags.word)
  | 'W' => some (flags.side? true flags.word)
  | _ => none

/-- Whether a sign stands for itself behind a backslash. -/
def isSign (c : Char) : Bool := c.toNat < 128 && !c.isAlphanum && c != '<' && c != '>'

/-- What stands behind a backslash, and what follows it. -/
def read? : List Char → Option (Atom × List Char)
  | [] => none
  | c :: cs =>
    match letterSet? flags c with
    | some set => set.map fun set => (.set set, cs)
    | none =>
      let char := fun (c : Char) => some (Atom.char c, cs)
      let anchor := fun (a : Anchor) => some (Atom.anchor a, cs)
      match c with
      | 'n' => char '\n'
      | 't' => char '\t'
      | 'r' => char '\r'
      | 'a' => char '\x07'
      | 'f' => char '\x0c'
      | 'v' => char '\x0b'
      | 'x' => (codePoint? flags 2 cs).map fun r => (.char r.1, r.2)
      | 'u' => (codePoint? flags 4 cs).map fun r => (.char r.1, r.2)
      | 'U' => (codePoint? flags 8 cs).map fun r => (.char r.1, r.2)
      | 'p' => (property? flags false cs).map fun r => (.set r.1, r.2)
      | 'P' => (property? flags true cs).map fun r => (.set r.1, r.2)
      | 'A' => anchor .textStart
      | 'z' => anchor .textEnd
      | 'b' => (wordEdge? flags cs).map fun r => (.anchor r.1, r.2)
      | 'B' => anchor (.noWordEdge flags.ascii)
      | '<' => anchor (.wordStart flags.ascii)
      | '>' => anchor (.wordEnd flags.ascii)
      | c => if isSign c then char c else none

end Escape
end TaxReturn.Pattern
