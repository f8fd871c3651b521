/-!
How much room a machine that reads bytes takes. Each state takes `stateRoom`; a state that branches
takes more for each branch, and one that tells ranges of bytes apart more for each range.
-/
namespace TaxReturn.Pattern

def stateRoom : Nat := 32

def branchRoom : Nat := 4

def rangeRoom : Nat := 8

/-- The room that a machine may take. -/
def roomLimit : Nat := 10485760

/-- A number of states and the room they take beyond their own. -/
structure Built where
  states : Nat := 0
  extra : Nat := 0
  deriving DecidableEq, Repr

namespace Built

variable (b : Built)

def room : Nat := stateRoom * b.states + b.extra

/-- Further states without branches. -/
def add (states : Nat) : Built := { b with states := b.states + states }

/-- Further branches of states there are. -/
def branches (count : Nat) : Built := { b with extra := b.extra + branchRoom * count }

/-- A state with branches. -/
def branch (count : Nat) : Built := (b.add 1).branches count

/-- A state that tells ranges apart. -/
def read (ranges : Nat) : Built :=
  { states := b.states + 1, extra := b.extra + rangeRoom * ranges }

/-- Make something `n` times over, as long as there is room. -/
def copies (make : Built → Built) : Nat → Built → Built
  | 0, b => b
  | n + 1, b => if roomLimit < b.room then b else copies make n (make b)

end Built

/-- Words cut behind each one that is empty: what follows an empty word must not be mixed with what
comes before it. As long as no word with bytes has been `seen`, one `cut` is enough. -/
def sections (seen cut : Bool) : List (List Nat) → List (List (List Nat))
  | [] => [[]]
  | [] :: words =>
    if !seen && cut then sections seen cut words else [] :: sections seen true words
  | word :: words =>
    match sections true cut words with
    | part :: parts => (word :: part) :: parts
    | [] => [[word]]

/-- The bytes that words begin with. -/
def heads (words : List (List Nat)) : List Nat := (words.filterMap (·.head?)).eraseDups

/-- Add the states that tell words apart byte by byte, where none of them is longer than `depth`:
for each section one that reads, and one that branches to them and to the end. Where all words have
ended there is no state. -/
def Built.addWords : (depth : Nat) → List (List Nat) → Built → Built
  | 0, _, b => b
  | depth + 1, words, b =>
    if words.all (·.isEmpty) then b
    else
      let parts := sections false false words
      let b := parts.foldl (fun b part =>
        let heads := heads part
        let b := heads.foldl (fun b head =>
          addWords depth ((part.filter (·.head? == some head)).map (·.drop 1)) b) b
        match heads.length with
        | 0 => b
        | 1 => b.add 1
        | n => b.read n) b
      b.branch ((parts.filter fun part => !part.isEmpty).length + (parts.length - 1))

/-- Add the states of a choice between words. -/
def Built.addChoice (words : List (List Nat)) (b : Built) : Built :=
  addWords ((words.map List.length).foldl max 0 + 1) words (b.add 1)

end TaxReturn.Pattern
