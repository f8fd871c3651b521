import TaxReturn.Name.Order

/-!
Who waits for what. Waiters are released name by name, in the order in which the names were met,
and for one name in the order in which they came.
-/
namespace TaxReturn

structure Waitlist where
  waiting : Name.Table (List String)
  /-- Names met whose waiters have not been released, in the order they were met. -/
  met : List String

namespace Waitlist

def empty : Waitlist := ⟨∅, []⟩

instance : Inhabited Waitlist := ⟨empty⟩

variable (w : Waitlist)

def waiters (name : String) : List String := w.waiting[name]?.getD []

def add (name waiter : String) : Waitlist :=
  { w with waiting := w.waiting.insert name (w.waiters name ++ [waiter]) }

def meet (name : String) : Waitlist := { w with met := w.met ++ [name] }

def hasMet : Bool := !w.met.isEmpty

/-- The names that are waited for and not met, in name order, with their waiters. -/
def unmet : List (String × List String) :=
  w.waiting.toList.filter fun p => !p.2.isEmpty && !w.met.contains p.1

def unmetNames : List String := w.unmet.map (·.1)

def hasUnmet : Bool := !w.unmet.isEmpty

/-- Release one waiter. Names met for which nobody waits are passed over. -/
def releaseFrom (waiting : Name.Table (List String)) : List String → Option String × Waitlist
  | [] => (none, ⟨waiting, []⟩)
  | name :: rest =>
    match waiting[name]? with
    | none => releaseFrom waiting rest
    | some [] => releaseFrom (waiting.erase name) rest
    | some [waiter] => (some waiter, ⟨waiting.erase name, rest⟩)
    | some (waiter :: others) => (some waiter, ⟨waiting.insert name others, name :: rest⟩)

def release : Option String × Waitlist := releaseFrom w.waiting w.met

/-- Release up to `n` waiters. -/
def releaseUpTo : Nat → Waitlist → List String × Waitlist
  | 0, w => ([], w)
  | n + 1, w =>
    match w.release with
    | (none, w) => ([], w)
    | (some waiter, w) => (waiter :: (releaseUpTo n w).1, (releaseUpTo n w).2)

/-- Release the waiters of all the names met. -/
def releaseAllFrom (waiting : Name.Table (List String)) : List String → List String × Waitlist
  | [] => ([], ⟨waiting, []⟩)
  | name :: rest =>
    let (others, w) := releaseAllFrom (waiting.erase name) rest
    (waiting[name]?.getD [] ++ others, w)

def releaseAll : List String × Waitlist := releaseAllFrom w.waiting w.met

end Waitlist
end TaxReturn
