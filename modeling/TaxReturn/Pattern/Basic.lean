import TaxReturn.Text.CharSet

/-!
Regular patterns. They are built by functions that keep them in a simple form: characters in a row
are one literal, rows and alternatives have no rows and alternatives of their own, and what cannot
add anything is left out.
-/
namespace TaxReturn

namespace Pattern

/-- A condition on a place of a text. -/
inductive Anchor where
  | textStart
  | textEnd
  /-- Where `returns` is set, carriage returns end lines as well. -/
  | lineStart (returns : Bool)
  | lineEnd (returns : Bool)
  /-- Where `ascii` is set, words have ASCII characters only. -/
  | wordEdge (ascii : Bool)
  | noWordEdge (ascii : Bool)
  | wordStart (ascii : Bool)
  | wordEnd (ascii : Bool)
  | noWordBefore (ascii : Bool)
  | noWordAfter (ascii : Bool)
  deriving DecidableEq, Repr

end Pattern

inductive Pattern where
  | nil
  | literal (chars : List Char)
  /-- One character of a set, which may have been given as one of ASCII characters alone. -/
  | one (chars : Text.CharSet) (ascii : Bool := false)
  | anchor (anchor : Pattern.Anchor)
  /-- A part that is remembered. -/
  | group (a : Pattern)
  | seq (a b : Pattern)
  | alt (a b : Pattern)
  /-- At least `least` times, and at most `most` times if that is given. Which of the matches is
  looked for first does not count, but sets repetitions apart. -/
  | times (a : Pattern) (least : Nat) (most : Option Nat) (shortestFirst : Bool := false)
  deriving DecidableEq, Repr

namespace Pattern

/-- One character of a set. The empty set is one of ASCII characters. -/
def ofSet (chars : Text.CharSet) (ascii : Bool := false) : Pattern :=
  match chars.only? with
  | some c => literal [c]
  | none => one chars (ascii || chars.ranges.isEmpty)

/-- The character that a pattern stands for. -/
def char? : Pattern → Option Char
  | literal [c] => some c
  | _ => none

/-- The set of characters, two or none, that a pattern stands for. -/
def set? : Pattern → Option Text.CharSet
  | one chars _ => some chars
  | _ => none

/-- Whether only the empty text can match. -/
def isEmptyOnly : Pattern → Bool
  | nil | anchor _ => true
  | literal _ | one .. => false
  | group a => a.isEmptyOnly
  | seq a b | alt a b => a.isEmptyOnly && b.isEmptyOnly
  | times a _ most _ => most == some 0 || (most.isSome && a.isEmptyOnly)

/-- The fewest characters of a match. Where a part cannot match, nothing is said. -/
def leastLength : Pattern → Option Nat
  | nil | anchor _ => some 0
  | literal chars => some chars.length
  | one chars _ => if chars.ranges.isEmpty then none else some 1
  | group a => a.leastLength
  | seq a b => do return (← a.leastLength) + (← b.leastLength)
  | alt a b => do return min (← a.leastLength) (← b.leastLength)
  | times a least _ _ => do return (← a.leastLength) * least

/-- Whether every match takes a character. -/
def takes (a : Pattern) : Bool := a.leastLength.any (0 < ·)

/-- Whether some part is remembered. -/
def hasGroup : Pattern → Bool
  | group _ => true
  | seq a b | alt a b => a.hasGroup || b.hasGroup
  | times a .. => a.hasGroup
  | _ => false

/-- A repetition. Of what matches the empty text alone, once is as good as many times. -/
def repeated (a : Pattern) (least : Nat) (most : Option Nat) (shortestFirst : Bool) : Pattern :=
  let (least, most) :=
    if a.isEmptyOnly then (min least 1, some ((most.map (min · 1)).getD 1)) else (least, most)
  if least = 0 ∧ most = some 0 then nil
  else if least = 1 ∧ most = some 1 then a
  else times a least most shortestFirst

/-- The items of a row. -/
def items : Pattern → List Pattern
  | nil => []
  | seq a b => a.items ++ b.items
  | p => [p]

/-- Put an item before a row, where a literal joins the literal that follows it. -/
def consItem : Pattern → List Pattern → List Pattern
  | literal a, literal b :: rest => literal (a ++ b) :: rest
  | p, rest => p :: rest

/-- Items one after another, none of them a row. -/
def ofItems : List Pattern → Pattern
  | [] => nil
  | [p] => p
  | p :: rest => seq p (ofItems rest)

/-- Patterns one after another. -/
def concat (ps : List Pattern) : Pattern :=
  ofItems ((ps.flatMap items).foldr consItem [])

/-- The alternatives of a choice. -/
def alternatives : Pattern → List Pattern
  | alt a b => a.alternatives ++ b.alternatives
  | p => [p]

def ofAlternatives : List Pattern → Pattern
  | [] => ofSet .none
  | [p] => p
  | p :: rest => alt p (ofAlternatives rest)

/-- One of several patterns. Single characters become a set, and so do sets. -/
def choiceOf (ps : List Pattern) : Pattern :=
  match ps with
  | [p] => p
  | ps =>
    match ps.mapM char?, ps.mapM set? with
    | some chars, _ => ofSet (.ofList chars)
    | none, some sets => ofSet (.unions sets)
    | none, none => ofAlternatives ps

/-- How many items two rows begin with alike. What is remembered is never alike. -/
def alike : List Pattern → List Pattern → Nat
  | a :: as, b :: bs => if a = b ∧ !a.hasGroup then alike as bs + 1 else 0
  | _, _ => 0

/-- How many items all rows begin with alike. -/
def shared : List (List Pattern) → Nat
  | [] => 0
  | row :: rows => rows.foldl (fun n other => min n (alike row other)) row.length

/-- One of several patterns. What rows begin with alike stands once, before the choice. -/
def choice (ps : List Pattern) : Pattern :=
  let ps := ps.flatMap alternatives
  let rows := ps.map items
  let n := if rows.all (1 < ·.length) then shared rows else 0
  match choiceOf ps with
  | alt a b =>
    if n = 0 then alt a b
    else
      let rests := rows.flatMap fun row => (ofItems (row.drop n)).alternatives
      concat ((rows.headD []).take n ++ [choiceOf rests])
  | p => p

/-- A pattern for a text as a whole. -/
def whole (pattern : Pattern) : Pattern :=
  concat [anchor .textStart, pattern, anchor .textEnd]

end Pattern
end TaxReturn
