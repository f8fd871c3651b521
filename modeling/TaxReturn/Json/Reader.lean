import TaxReturn.Text.CodePoint

/-!
Reading the JSON documents that hold text in two levels of objects.
-/
namespace TaxReturn.Json.Reader

def isSpace (c : Char) : Bool := c == ' ' || c == '\t' || c == '\n' || c == '\r'

def skipSpace (cs : List Char) : List Char := cs.dropWhile isSpace

/-- The character of two UTF-16 units. -/
def pairChar? (high low : Nat) : Option Char :=
  if 0xd800 ≤ high ∧ high < 0xdc00 ∧ 0xdc00 ≤ low ∧ low < 0xe000 then
    Text.charOf? (0x10000 + 1024 * (high - 0xd800) + (low - 0xdc00))
  else none

def escaped? : Char → Option Char
  | '"' => some '"'
  | '\\' => some '\\'
  | '/' => some '/'
  | 'b' => some '\x08'
  | 'f' => some '\x0c'
  | 'n' => some '\n'
  | 'r' => some '\r'
  | 't' => some '\t'
  | _ => none

/-- The rest of a string on top of the characters read, the last one first. -/
def stringRest? (read : List Char) : List Char → Option (String × List Char)
  | [] => none
  | '"' :: cs => some (String.ofList read.reverse, cs)
  | '\\' :: 'u' :: a :: b :: c :: d :: cs =>
    match Text.hexValue? [a, b, c, d] with
    | none => none
    | some high =>
      match Text.charOf? high, cs with
      | some ch, cs => stringRest? (ch :: read) cs
      | none, '\\' :: 'u' :: e :: f :: g :: h :: cs =>
        match (Text.hexValue? [e, f, g, h]).bind (pairChar? high) with
        | some ch => stringRest? (ch :: read) cs
        | none => none
      | none, _ => none
  | '\\' :: c :: cs =>
    match escaped? c with
    | some ch => stringRest? (ch :: read) cs
    | none => none
  | c :: cs => if c.toNat < 32 then none else stringRest? (c :: read) cs

def string? (cs : List Char) : Option (String × List Char) :=
  match skipSpace cs with
  | '"' :: cs => stringRest? [] cs
  | _ => none

/-- One member with its colon. -/
def member? {α : Type} (value? : List Char → Option (α × List Char)) (cs : List Char) :
    Option ((String × α) × List Char) := do
  let (key, cs) ← string? cs
  match skipSpace cs with
  | ':' :: cs =>
    let (value, cs) ← value? cs
    return ((key, value), cs)
  | _ => none

/-- Members up to the closing brace. Each takes at least one character. -/
def members? {α : Type} (value? : List Char → Option (α × List Char)) :
    Nat → List Char → Option (List (String × α) × List Char)
  | 0, _ => none
  | n + 1, cs => do
    let (first, cs) ← member? value? cs
    match skipSpace cs with
    | ',' :: cs =>
      let (rest, cs) ← members? value? n cs
      return (first :: rest, cs)
    | '\x7d' :: cs => return ([first], cs)
    | _ => none

/-- An object, its members in the order they stand. -/
def object? {α : Type} (value? : List Char → Option (α × List Char)) (cs : List Char) :
    Option (List (String × α) × List Char) :=
  match skipSpace cs with
  | '\x7b' :: cs =>
    match skipSpace cs with
    | '\x7d' :: cs => some ([], cs)
    | cs => members? value? cs.length cs
  | _ => none

/-- A whole document that is an object of objects of strings. -/
def nested? (text : String) : Option (List (String × List (String × String))) :=
  match object? (object? string?) text.toList with
  | some (members, cs) => if (skipSpace cs).isEmpty then some members else none
  | none => none

end TaxReturn.Json.Reader
