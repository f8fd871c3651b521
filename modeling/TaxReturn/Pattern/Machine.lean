import TaxReturn.Pattern.Basic
import TaxReturn.Pattern.SetStates
import TaxReturn.Text.Utf8

/-!
The machines of a pattern, which read a text forwards and backwards. A pattern is refused where one
of them takes too much room, whatever the text. States are counted as they are made, one after
another.
-/
namespace TaxReturn.Pattern

/-- What a pattern asks of a machine. -/
inductive Plan where
  /-- A state that reads nothing. -/
  | blank
  | bytes (count : Nat)
  /-- A set of ASCII characters in some ranges. -/
  | ranges (count : Nat)
  | rows (rows : List (List (Nat × Nat)))
  | group (a : Plan)
  | seq (a b : Plan)
  | alt (a b : Plan)
  /-- A choice between words. -/
  | words (words : List (List Nat))
  | times (a : Plan) (takes : Bool) (least : Nat) (most : Option Nat)
  deriving Repr

def bytesOf (chars : List Char) : List Nat :=
  chars.flatMap fun c => Text.bytesOf (Text.byteCount c.toNat) c.toNat

/-- The bytes of all alternatives, if they are literals. -/
def words? (p : Pattern) : Option (List (List Nat)) :=
  p.alternatives.mapM fun
    | literal chars => some (bytesOf chars)
    | _ => none

/-- The plan of a pattern; `inChoice` says whether it is what is left of a choice. -/
def plan (inChoice : Bool) : Pattern → Plan
  | nil | anchor _ => .blank
  | literal chars => .bytes (bytesOf chars).length
  | one chars _ => if chars.isAscii then .ranges chars.ranges.length else .rows chars.byteRows
  | group a => .group (a.plan false)
  | seq a b => .seq (a.plan false) (b.plan false)
  | alt a b =>
    match if inChoice then none else (alt a b).words? with
    | some words => .words words
    | none => .alt (a.plan false) (b.plan true)
  | times a least most _ => .times (a.plan false) a.takes least most

/-- Make the states of a repetition from those of what is repeated. -/
def Built.addTimes (make : Built → Built) (takes : Bool) (least : Nat) :
    Option Nat → Built → Built
  | none, b =>
    if least = 0 then
      if takes then make (b.branch 2) else (((make b).branch 2).branch 2).add 1
    else (copies make least b).branch 2
  | some most, b =>
    let before := fun (b : Built) => if least = 0 then b.add 1 else copies make least b
    if least = 0 ∧ most = 1 then (make (b.branch 2)).add 1
    else if least = most then before b
    else copies (fun b => make (b.branch 2)) (most - least) ((before b).add 1)

/-- Make the states of a plan. An alternative has its `rank` in the choice; the states around a
choice come after those of its second one. What is remembered takes room forwards only. -/
def Plan.build (backwards : Bool) : Option Nat → Plan → Built → Built
  | rank, .alt x y, b =>
    let n := rank.getD 0
    y.build backwards (some (n + 1)) (x.build backwards (some n) b)
  | rank, .blank, b => join rank (b.add 1)
  | rank, .bytes count, b => join rank (b.add count)
  | rank, .ranges count, b => join rank ((b.add 1).read count)
  | rank, .rows rs, b => join rank (if backwards then b.addBackwards rs else b.addForwards rs)
  | rank, .group x, b =>
    join rank (if backwards then x.build backwards none b
      else (x.build backwards none (b.add 1)).add 1)
  | rank, .seq x y, b =>
    join rank (if backwards then x.build backwards none (y.build backwards none b)
      else y.build backwards none (x.build backwards none b))
  | rank, .words ws, b =>
    join rank (b.addChoice (if backwards then ws.map List.reverse else ws))
  | rank, .times x takes least most, b =>
    join rank (Built.addTimes (x.build backwards none) takes least most b)
where
  join (rank : Option Nat) (b : Built) : Built :=
    match rank with
    | none => b
    | some 1 => (b.branch 1).add 1 |>.branches 1
    | some 0 => b
    | some _ => b.branches 1

/-- Whether every match begins at the start of the text. -/
def fromStart : Pattern → Bool
  | anchor a => a == .textStart
  | group a => a.fromStart
  | seq a b => a.fromStart || (a.isEmptyOnly && b.fromStart)
  | alt a b => a.fromStart && b.fromStart
  | times a least _ _ => 0 < least && a.fromStart
  | nil | literal _ | one .. => false

/-- Whether every match ends at the end of the text. -/
def toEnd : Pattern → Bool
  | anchor a => a == .textEnd
  | group a => a.toEnd
  | seq a b => b.toEnd || (b.isEmptyOnly && a.toEnd)
  | alt a b => a.toEnd && b.toEnd
  | times a least _ _ => 0 < least && a.toEnd
  | nil | literal _ | one .. => false

/-- The states before a pattern, which has to begin where the machine does, or may begin
anywhere. -/
def lead (fixed : Bool) : Built :=
  if fixed then Built.add {} 1 else ((Built.branch {} 2).add 1).read 1

/-- The machine that reads forwards remembers the match as a whole. -/
def forwards (p : Pattern) : Built :=
  (((p.plan false).build false none ((lead p.fromStart).add 1)).add 1).add 1

def backwards (p : Pattern) : Built :=
  ((p.plan false).build true none (lead p.toEnd)).add 1

/-- Whether a pattern may be used: its machines fit. -/
def fits (p : Pattern) : Bool :=
  p.backwards.room ≤ roomLimit && p.forwards.room ≤ roomLimit

end TaxReturn.Pattern
