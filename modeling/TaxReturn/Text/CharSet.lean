import TaxReturn.Text.CodePoint
import TaxReturn.Text.Split

/-!
Sets of characters as ranges of code points. Every set that is built here has its ranges in
order, with at least one code point between two of them.
-/
namespace TaxReturn.Text

/-- A set of code points as inclusive ranges in order. -/
structure CharSet where
  ranges : List (Nat × Nat)
  deriving DecidableEq, Repr

namespace CharSet

instance : Inhabited CharSet := ⟨⟨[]⟩⟩

def none : CharSet := ⟨[]⟩

def single (c : Char) : CharSet := ⟨[(c.toNat, c.toNat)]⟩

/-- The code points that stand for no character. -/
def surrogates : Nat × Nat := (0xd800, 0xdfff)

def range (first last : Char) : CharSet :=
  if first.toNat < surrogates.1 ∧ surrogates.2 < last.toNat then
    ⟨[(first.toNat, surrogates.1 - 1), (surrogates.2 + 1, last.toNat)]⟩
  else ⟨[(first.toNat, last.toNat)]⟩

/-- Join ranges that overlap or touch, given in the order of their starts. -/
def join : Nat × Nat → List (Nat × Nat) → List (Nat × Nat)
  | r, [] => [r]
  | r, s :: rest =>
    if s.1 ≤ r.2 + 1 then join (r.1, max r.2 s.2) rest else r :: join s rest

/-- The set that ranges in any order make up. -/
def ofRanges (ranges : List (Nat × Nat)) : CharSet :=
  match ranges.mergeSort (fun r s => r.1 ≤ s.1) with
  | [] => none
  | r :: rest => ⟨join r rest⟩

def ofList (cs : List Char) : CharSet := ofRanges (cs.map fun c => (c.toNat, c.toNat))

def lastCodePoint : Nat := 0x10ffff

/-- What ranges in order leave out, from `next` on. -/
def gaps (next : Nat) : List (Nat × Nat) → List (Nat × Nat)
  | [] => if next ≤ lastCodePoint then [(next, lastCodePoint)] else []
  | r :: rest => if next < r.1 then (next, r.1 - 1) :: gaps (r.2 + 1) rest else gaps (r.2 + 1) rest

variable (a b : CharSet)

def union : CharSet := ofRanges (a.ranges ++ b.ranges)

/-- The characters that are not in a set. -/
def compl : CharSet := ⟨gaps 0 (ofRanges (surrogates :: a.ranges)).ranges⟩

def inter : CharSet := (a.compl.union b.compl).compl

def diff : CharSet := a.inter b.compl

def all : CharSet := none.compl

def unions (sets : List CharSet) : CharSet := ofRanges (sets.flatMap (·.ranges))

def contains (c : Char) : Bool := a.ranges.any fun r => r.1 ≤ c.toNat && c.toNat ≤ r.2

/-- The ranges of a set for a search by halves. -/
def index : Array (Nat × Nat) := a.ranges.toArray

/-- Whether one of the ranges from `low` up to `high` holds `n`. -/
def holds (ranges : Array (Nat × Nat)) (n low high : Nat) : Bool :=
  if low < high then
    let middle := (low + high) / 2
    match ranges[middle]? with
    | some r =>
      if n < r.1 then holds ranges n low middle
      else if r.2 < n then holds ranges n (middle + 1) high
      else true
    | Option.none => false
  else false
termination_by high - low

def isAscii : Bool := a.ranges.all fun r => r.2 < 128

/-- The character of a set that has one only. -/
def only? : Option Char :=
  match a.ranges with
  | [r] => if r.1 = r.2 then charOf? r.1 else Option.none
  | _ => Option.none

/-- Every `step`th code point from `first` to `last`. -/
def stepped (first last step : Nat) : List (Nat × Nat) :=
  (List.range ((last - first) / step + 1)).map fun k => (first + k * step, first + k * step)

/-- One word of the written form: a code point, a range of them, or a range taken in steps, as in
`100-17e/2`. -/
def wordRanges (word : String) : List (Nat × Nat) :=
  let value := fun (s : String) => (hexValue? s.toList).getD 0
  match cut '-' word with
  | Option.none => [(value word, value word)]
  | some (first, rest) =>
    match cut '/' rest with
    | Option.none => [(value first, value rest)]
    | some (last, step) => stepped (value first) (value last) (value step)

/-- A set from its written form: lines of words with blanks between, every number in
hexadecimal. -/
def ofText (lines : List String) : CharSet :=
  ofRanges (lines.flatMap fun line => (line.splitOn " ").flatMap wordRanges)

end CharSet
end TaxReturn.Text
