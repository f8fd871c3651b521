import Std.Data.HashMap
import TaxReturn.Pattern.Size

/-!
The states of a machine that read one character of a set, byte by byte, from rows of byte ranges.
States that go on alike are shared, as far as they are remembered: memory has a fixed number of
slots, and a state displaces what was in its slot. Since a slot depends on the numbers of the
states that follow, what a set takes depends on the states made before it.
-/
namespace TaxReturn.Pattern

/-- Numbers mixed into one, by the prime 1099511628211. -/
def mix (numbers : List Nat) : UInt64 :=
  numbers.foldl (fun h n => (h ^^^ n.toUInt64) * 1099511628211) 14695981039346656037

/-- States being made for a set: what is built, and the states remembered with their numbers, by
slot. -/
structure Sharing (κ : Type) where
  built : Built
  memory : Std.HashMap Nat (κ × Nat) := {}

namespace Sharing

variable {κ : Type} [DecidableEq κ]

/-- The number of a state that goes on like `key`: one that is remembered, or a new one. -/
def find (slot : Nat) (key : κ) (make : Built → Built) (sharing : Sharing κ) : Nat × Sharing κ :=
  let number := sharing.built.states
  let new := fun () =>
    (number, ⟨make sharing.built, sharing.memory.insert slot (key, number)⟩)
  match sharing.memory[slot]? with
  | some (known, number) => if known = key then (number, sharing) else new ()
  | none => new ()

end Sharing

/-- Rows of byte ranges by their first range, for rows in order. -/
def byFirst : List (List (Nat × Nat)) → List ((Nat × Nat) × List (List (Nat × Nat)))
  | [] => []
  | [] :: rows => byFirst rows
  | (first :: rest) :: rows =>
    match byFirst rows with
    | (other, rests) :: groups =>
      if first = other then (first, rest :: rests) :: groups
      else (first, [rest]) :: (other, rests) :: groups
    | [] => [(first, [rest])]

/-- A state that reads forwards: each range of bytes with the state after it. -/
abbrev Reading : Type := List ((Nat × Nat) × Nat)

/-- How many states are remembered that read forwards. -/
def forwardSlots : Nat := 10000

def Reading.slot (reading : Reading) : Nat :=
  (mix (reading.flatMap fun r => [r.1.1, r.1.2, r.2])).toNat % forwardSlots

/-- The state that reads rows of at most `depth` ranges and leads to `last`. -/
def readings (last : Nat) : (depth : Nat) → List (List (Nat × Nat)) → Sharing Reading →
    Nat × Sharing Reading
  | 0, _, sharing => (last, sharing)
  | depth + 1, rows, sharing =>
    let groups := byFirst rows
    if groups.isEmpty then (last, sharing)
    else
      let (reading, sharing) := groups.foldl (fun (reading, sharing) group =>
        let (next, sharing) := readings last depth group.2 sharing
        ((group.1, next) :: reading, sharing)) (([] : Reading), sharing)
      let reading := reading.reverse
      sharing.find (Reading.slot reading) reading (·.read reading.length)

/-- Add the states that read a set forwards: one that ends it, and those of the rows. -/
def Built.addForwards (rows : List (List (Nat × Nat))) (b : Built) : Built :=
  (readings b.states 4 rows ⟨b.add 1, {}⟩).2.built

/-- A state that reads backwards a range of bytes and goes on to the state `next`. -/
structure Step where
  next : Nat
  range : Nat × Nat
  deriving DecidableEq, Repr

/-- How many states are remembered that read backwards. -/
def backwardSlots : Nat := 1000

def Step.slot (s : Step) : Nat := (mix [s.next, s.range.1, s.range.2]).toNat % backwardSlots

/-- The states of one row, from the one that the bytes lead to. -/
def addRow (last : Nat) (sharing : Sharing Step) (row : List (Nat × Nat)) : Sharing Step :=
  (row.foldl (fun (next, sharing) range =>
    let step : Step := ⟨next, range⟩
    sharing.find step.slot step (·.add 1)) (last, sharing)).2

/-- Add the states that read a set backwards: one that branches to the rows, one that ends them,
and those of the rows. -/
def Built.addBackwards (rows : List (List (Nat × Nat))) (b : Built) : Built :=
  (rows.foldl (addRow (b.states + 1)) ⟨(b.add 2).branches rows.length, {}⟩).built

end TaxReturn.Pattern
