import TaxReturn.Pattern.Sets

/-!
Where patterns match. A pattern is laid along one text, which leaves only sets of places: those
that a character is taken from and those that a condition holds at. A match is found by the set of
places that can be reached, so neither greed nor the order of alternatives matters.
-/
namespace TaxReturn

/-- A set of places of a text: bit `i` stands for the place before the character at `i`. -/
abbrev Places := Nat

namespace Pattern

/-- The places where the items of a list hold, the first one at place zero. -/
def placesOf (holds : List Bool) : Places :=
  holds.foldr (fun b places => 2 * places + b.toNat) 0

/-- The places of a text that a character of a set is taken from. -/
def takenFrom (text : List Char) (set : Text.CharSet) : Places :=
  let index := set.index
  placesOf (text.map fun c => Text.CharSet.holds index c.toNat 0 index.size)

def Anchor.isWord (ascii : Bool) : Option Char → Bool
  | none => false
  | some c => if ascii then c.isAlphanum || c == '_' else wordSet.contains c

def Anchor.holdsBetween (before after : Option Char) : Anchor → Bool
  | .textStart => before.isNone
  | .textEnd => after.isNone
  | .lineStart false => before.all (· == '\n')
  | .lineEnd false => after.all (· == '\n')
  | .lineStart true => before.all fun c => c == '\n' || (c == '\r' && after != some '\n')
  | .lineEnd true => after.all fun c => c == '\r' || (c == '\n' && before != some '\r')
  | .wordEdge ascii => isWord ascii before != isWord ascii after
  | .noWordEdge ascii => isWord ascii before == isWord ascii after
  | .wordStart ascii => !isWord ascii before && isWord ascii after
  | .wordEnd ascii => isWord ascii before && !isWord ascii after
  | .noWordBefore ascii => !isWord ascii before
  | .noWordAfter ascii => !isWord ascii after

/-- The places of a text that an anchor holds at. -/
def Anchor.places (text : List Char) (anchor : Anchor) : Places :=
  let befores := none :: text.map some
  let afters := text.map some ++ [none]
  placesOf (befores.zipWith (fun before after => anchor.holdsBetween before after) afters)

end Pattern

/-- A pattern laid along a text. -/
inductive Track where
  /-- Stay where that is allowed. -/
  | stay (here : Places)
  /-- Go one place on where that is allowed. -/
  | step (ahead : Places)
  | seq (a b : Track)
  | alt (a b : Track)
  /-- Once or more. -/
  | again (a : Track)
  | exactly (n : Nat) (a : Track)
  | upTo (n : Nat) (a : Track)
  deriving Repr

namespace Track

variable (all : Places)

/-- Whether it is possible to stay at every place. -/
def staysAnywhere : Track → Bool
  | stay places => places == all
  | step _ => false
  | seq a b => a.staysAnywhere && b.staysAnywhere
  | alt a b => a.staysAnywhere || b.staysAnywhere
  | again a => a.staysAnywhere
  | exactly n a => n == 0 || a.staysAnywhere
  | upTo _ _ => true

/-- What has to be gone through in a loop that may stay anywhere: staying, and what only loops
within a loop, adds nothing there. -/
def inLoop : Track → Track
  | seq a b => if a.staysAnywhere all && b.staysAnywhere all then alt a.inLoop b.inLoop else seq a b
  | alt a b => alt a.inLoop b.inLoop
  | again a => a.inLoop
  | exactly n a =>
    if n = 0 then stay 0 else if a.staysAnywhere all then a.inLoop else exactly n a
  | upTo n a => if n = 0 then stay 0 else a.inLoop
  | stay places => if places = all then stay 0 else stay places
  | step ahead => step ahead

/-- Once or more, with loops within the loop left out. -/
def loop (a : Track) : Track :=
  if a.staysAnywhere all then alt (stay all) (again (a.inLoop all)) else again (a.inLoop all)

/-- From places already seen, go on from the newest of them until none is new. -/
def grow (f : Places → Places) : (rounds : Nat) → (seen newest : Places) → Places
  | 0, seen, _ => seen
  | rounds + 1, seen, newest =>
    let reached := f newest
    let new := reached ^^^ (reached &&& seen)
    if new = 0 then seen else grow f rounds (seen ||| new) new

/-- Apply `f` `n` times, or until that changes nothing. -/
def iterate (f : Places → Places) : (n : Nat) → Places → Places
  | 0, places => places
  | n + 1, places =>
    let next := f places
    if next = places then places else iterate f n next

/-- The places that are reached from some places of a text with `length` characters. From no place
none is reached. -/
def reach (length : Nat) (track : Track) (start : Places) : Places :=
  if start = 0 then 0
  else match track with
    | stay places => start &&& places
    | step ahead => 2 * (start &&& ahead)
    | seq a b => b.reach length (a.reach length start)
    | alt a b => a.reach length start ||| b.reach length start
    | again a =>
      let first := a.reach length start
      grow (a.reach length) (length + 1) first first
    | exactly n a => iterate (a.reach length) n start
    | upTo n a => grow (a.reach length) n start start

end Track

namespace Pattern

/-- Lay a pattern along a text whose places are `all`. -/
def along (text : List Char) (all : Places) : Pattern → Track
  | nil => .stay all
  | literal chars =>
    (chars.map fun c => Track.step (takenFrom text (.single c))).foldr .seq (.stay all)
  | one set _ => .step (takenFrom text set)
  | anchor a => .stay (a.places text)
  | group a => a.along text all
  | seq a b => .seq (a.along text all) (b.along text all)
  | alt a b => .alt (a.along text all) (b.along text all)
  | times a least (some most) _ =>
    let track := a.along text all
    if least = 0 then .upTo most track
    else .seq (.exactly least track) (.upTo (most - least) track)
  | times a 0 none _ => .alt (.stay all) ((a.along text all).loop all)
  | times a (least + 1) none _ =>
    let track := a.along text all
    if least = 0 then track.loop all else .seq (.exactly least track) (track.loop all)

/-- Whether some part of the text matches. -/
def occursIn (pattern : Pattern) (s : String) : Bool :=
  let text := s.toList
  let all := placesOf (true :: text.map fun _ => true)
  (pattern.along text all).reach text.length all != 0

end Pattern
end TaxReturn
