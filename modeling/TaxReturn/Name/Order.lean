import TaxReturn.Name.Form
import TaxReturn.Text.Alphabetic
import Std.Data.ExtTreeMap
import Std.Data.ExtTreeSet

/-!
The order of names. Line numbers stand as they do on paper, `1a` before `8` before `10`: a name
is read as runs of digits and of letters, digits count as numbers, and what is neither only
divides runs. Names with equal runs are told apart by their characters, so that the order is
total and two names that compare equal are equal.
-/
namespace TaxReturn.Name

inductive Class where
  | digit
  | letter
  | divider
  deriving DecidableEq, Repr

def Class.of (c : Char) : Class :=
  if c.isDigit then .digit else if Text.isAlphabetic c then .letter else .divider

inductive Run where
  | number (value : Nat)
  | word (letters : String)
  deriving DecidableEq, Repr

namespace Run

/-- A number stands before a word. -/
def compare : Run → Run → Ordering
  | number a, number b => Ord.compare a b
  | word a, word b => Ord.compare a b
  | number _, word _ => .lt
  | word _, number _ => .gt

instance : Ord Run := ⟨compare⟩

instance : Std.TransOrd Run where
  eq_swap {a b} := by
    cases a <;> cases b
    · exact Std.OrientedOrd.eq_swap (α := Nat)
    · rfl
    · rfl
    · exact Std.OrientedOrd.eq_swap (α := String)
  isLE_trans {a b c} := by
    cases a <;> cases b <;> cases c
    case number.number.number => exact Std.TransOrd.isLE_trans (α := Nat)
    case word.word.word => exact Std.TransOrd.isLE_trans (α := String)
    case number.number.word => exact fun _ _ => rfl
    case number.word.word => exact fun _ _ => rfl
    case number.word.number => exact fun _ h => nomatch h
    case word.word.number => exact fun _ h => nomatch h
    case word.number.number => exact fun h => nomatch h
    case word.number.word => exact fun h => nomatch h

instance : Std.LawfulEqOrd Run where
  eq_of_compare {a b} h := by
    cases a <;> cases b
    · exact congrArg number (Std.LawfulEqOrd.eq_of_compare h)
    · exact nomatch h
    · exact nomatch h
    · exact congrArg word (Std.LawfulEqOrd.eq_of_compare h)

def digitsValue (cs : List Char) : Nat := cs.foldl (fun n c => 10 * n + (c.toNat - '0'.toNat)) 0

/-- A chunk of characters of one class is a run, unless it divides runs. -/
def ofChunk (cs : List Char) : Option Run :=
  match cs with
  | [] => none
  | c :: _ =>
    match Class.of c with
    | .digit => some (number (digitsValue cs))
    | .letter => some (word (String.ofList cs))
    | .divider => none

/-- The runs of a text, from left to right. -/
def ofChars (cs : List Char) : List Run :=
  (cs.splitBy fun a b => Class.of a == Class.of b).filterMap ofChunk

end Run

/-- The runs of the form and of the rest; a bare name has no form. -/
def formRuns (name : String) : List Run :=
  match split name with
  | some (form, _) => Run.ofChars form.toList
  | none => []

def localRuns (name : String) : List Run :=
  match split name with
  | some (_, rest) => Run.ofChars rest.toList
  | none => Run.ofChars name.toList

/-- First by form, then within the form, then by characters. -/
def order : String → String → Ordering :=
  compareLex (compareOn formRuns) (compareLex (compareOn localRuns) (compareOn id))

instance : Std.TransCmp order :=
  inferInstanceAs
    (Std.TransCmp
      (compareLex (compareOn formRuns) (compareLex (compareOn localRuns) (compareOn id))))

instance : Std.LawfulEqCmp order where
  eq_of_compare h := by
    have h := Ordering.then_eq_eq.1 h
    exact Std.LawfulEqOrd.eq_of_compare (Ordering.then_eq_eq.1 h.2).2

def le (a b : String) : Bool := (order a b).isLE

/-- Put a name in its place among names that stand in their order. -/
def place (name : String) : List String → List String
  | [] => [name]
  | first :: rest => if le name first then name :: first :: rest else first :: place name rest

def sort (names : List String) : List String := names.foldr place []

/-- A finite map whose keys stand in the order of names. -/
abbrev Table (α : Type) := Std.ExtTreeMap String α order

/-- A finite set of names, in their order. -/
abbrev Set := Std.ExtTreeSet String order

end TaxReturn.Name
