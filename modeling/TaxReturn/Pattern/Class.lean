import TaxReturn.Pattern.Escape

/-!
Classes: sets of characters in brackets, with ranges, named sets, classes within classes, and the
operations `&&`, `--` and `~~`, which hold their operands in the order they stand.
-/
namespace TaxReturn.Pattern.Class

def rangesOf (ranges : List (Char × Char)) : Text.CharSet :=
  .ofRanges (ranges.map fun r => (r.1.toNat, r.2.toNat))

/-- The named classes of ASCII characters. -/
def ascii? (name : String) : Option Text.CharSet :=
  let upper := [('A', 'Z')]
  let lower := [('a', 'z')]
  let digits := [('0', '9')]
  match name with
  | "alnum" => some (rangesOf (digits ++ upper ++ lower))
  | "alpha" => some (rangesOf (upper ++ lower))
  | "ascii" => some (rangesOf [('\x00', '\x7f')])
  | "blank" => some (rangesOf [('\t', '\t'), (' ', ' ')])
  | "cntrl" => some (rangesOf [('\x00', '\x1f'), ('\x7f', '\x7f')])
  | "digit" => some (rangesOf digits)
  | "graph" => some (rangesOf [('!', '~')])
  | "lower" => some (rangesOf lower)
  | "print" => some (rangesOf [(' ', '~')])
  | "punct" => some (rangesOf [('!', '/'), (':', '@'), ('[', '\x60'), ('\x7b', '~')])
  | "space" => some (rangesOf [('\t', '\r'), (' ', ' ')])
  | "upper" => some (rangesOf upper)
  | "word" => some (rangesOf (digits ++ upper ++ lower ++ [('_', '_')]))
  | "xdigit" => some (rangesOf (digits ++ [('A', 'F'), ('a', 'f')]))
  | _ => none

/-- The name of a class from behind its `[:`, with a leading `^` for its complement. -/
def named? (cs : List Char) : Option (Bool × Text.CharSet × List Char) :=
  let (inverse, cs) := match cs with
    | '^' :: cs => (true, cs)
    | cs => (false, cs)
  match cs.dropWhile (· != ':') with
  | ':' :: ']' :: rest =>
    (ascii? (String.ofList (cs.takeWhile (· != ':')))).map fun set => (inverse, set, rest)
  | _ => none

/-- The items of a class since its last operation. `depth` is that of the deepest item. -/
structure Items where
  set : Text.CharSet := .none
  count : Nat := 0
  depth : Nat := 0
  deriving Repr

namespace Items

def add (items : Items) (set : Text.CharSet) (depth : Nat) : Items :=
  ⟨items.set.union set, items.count + 1, max items.depth depth⟩

/-- Several items lie one deeper than one. -/
def depthAll (items : Items) : Nat := if 2 ≤ items.count then items.depth + 1 else items.depth

end Items

/-- An operation that waits for its second operand. -/
structure Waiting where
  operation : Char
  left : Text.CharSet
  depth : Nat
  deriving Repr

variable (flags : Flags)

/-- The set of all items and how deep it lies. -/
def close (waiting : Option Waiting) (items : Items) : Text.CharSet × Nat :=
  match waiting with
  | none => (items.set, items.depthAll)
  | some w =>
    let left := flags.fold w.left
    let right := flags.fold items.set
    let set := match w.operation with
      | '&' => left.inter right
      | '-' => left.diff right
      | _ => (left.diff right).union (right.diff left)
    (set, max w.depth items.depthAll + 1)

/-- One item or one end of a range. -/
def atom? : List Char → Option (Atom × List Char)
  | '\\' :: cs => Escape.read? flags cs
  | c :: cs => some (.char c, cs)
  | [] => none

/-- A character that may stand in a class. -/
def char? (c : Char) : Option Char := if flags.ascii && 128 ≤ c.toNat then none else some c

/-- The sign behind a hyphen. The start of a note is passed over like a blank. -/
def signAfter (cs : List Char) : Option Char :=
  if !flags.spaced then cs.head?
  else
    let next := match cs.dropWhile Text.isBlank with
      | '#' :: rest => rest.dropWhile Text.isBlank
      | rest => rest
    if next.isEmpty then cs.head? else next.head?

/-- Whether a range goes on behind its first character. -/
def startsRange : List Char → Bool
  | '-' :: cs => signAfter flags cs != some ']' && signAfter flags cs != some '-'
  | _ => false

/-- One item, or a range, that is no class of its own. -/
def item? (cs : List Char) : Option (Text.CharSet × List Char) := do
  let (first, cs) ← atom? flags cs
  let cs := flags.skip cs
  if startsRange flags cs then
    match first, ← atom? flags (flags.skip (cs.drop 1)) with
    | .char first, (.char last, rest) =>
      let first ← char? flags first
      let last ← char? flags last
      if first ≤ last then some (.range first last, rest) else none
    | _, _ => none
  else
    match first with
    | .char c => (char? flags c).map fun c => (.single c, cs)
    | .set set => some (set, cs)
    | .anchor _ => none

/-- Where in a class the reader is: hyphens and then a closing bracket stand for themselves at its
start. -/
inductive Position where
  | start
  | hyphens
  | inside
  deriving DecidableEq, Repr

mutual

/-- A class from behind its `[`: its set, how deep it lies, and what follows. -/
def read? : Nat → List Char → Option (Text.CharSet × Nat × List Char)
  | 0, _ => none
  | fuel + 1, cs =>
    let (inverse, cs) := match flags.skip cs with
      | '^' :: cs => (true, cs)
      | cs => (false, cs)
    match readItems? fuel .start none {} cs with
    | some (set, depth, rest) =>
      (flags.side? inverse (flags.fold set)).map fun set => (set, depth + 1, rest)
    | none => none

/-- The items of a class on top of those read, up to its `]`. -/
def readItems? : Nat → Position → Option Waiting → Items → List Char →
    Option (Text.CharSet × Nat × List Char)
  | 0, _, _, _, _ => none
  | fuel + 1, position, waiting, items, cs =>
    let operate := fun (operation : Char) (cs : List Char) =>
      let (left, depth) := close flags waiting items
      readItems? fuel .inside (some ⟨operation, left, depth⟩) {} cs
    match position, flags.skip cs with
    | _, [] => none
    | .start, '-' :: cs | .hyphens, '-' :: cs =>
      readItems? fuel .hyphens waiting (items.add (.single '-') 0) cs
    | .start, ']' :: cs => readItems? fuel .inside waiting (items.add (.single ']') 0) cs
    | _, ']' :: cs =>
      let (set, depth) := close flags waiting items
      some (set, depth, cs)
    | _, '&' :: '&' :: cs => operate '&' cs
    | _, '-' :: '-' :: cs => operate '-' cs
    | _, '~' :: '~' :: cs => operate '~' cs
    | _, '[' :: cs =>
      match (match cs with | ':' :: named => named? named | _ => none) with
      | some (inverse, set, cs) =>
        match flags.side? inverse (flags.fold set) with
        | some set => readItems? fuel .inside waiting (items.add set 0) cs
        | none => none
      | none =>
        match read? fuel cs with
        | some (set, depth, cs) => readItems? fuel .inside waiting (items.add set depth) cs
        | none => none
    | _, cs =>
      match item? flags cs with
      | some (set, cs) => readItems? fuel .inside waiting (items.add set 0) cs
      | none => none

end

end TaxReturn.Pattern.Class
