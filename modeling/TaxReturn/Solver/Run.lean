import TaxReturn.Solver.Basic

/-!
A solve in single moves. Each round empties the work list, evaluates the fields that waited for
what was committed, asks for inputs, and evaluates the fields that waited for the answers. Rounds
go on until there is nothing to do.
-/
namespace TaxReturn

/-- What the filer is asked: an input, how it is read, and the fields that wait for it. -/
structure Question where
  name : String
  spec : InputSpec
  waiting : List String

namespace Solver

inductive Stage where
  /-- At the head of a round. -/
  | round
  | attempting
  /-- Fields that waited for fields are still to be evaluated. -/
  | releasing (fields : List String)
  /-- Inputs are still to be asked for. -/
  | asking (inputs : List String)
  /-- Fields that waited for inputs are still to be evaluated. -/
  | supplying (fields : List String)
  deriving DecidableEq, Repr

structure Run where
  solver : Solver
  stage : Stage

inductive Move where
  | next (run : Run)
  /-- The run goes on when the question is answered. -/
  | ask (question : Question) (run : Run)
  | finished (solver : Solver)
  | failed (error : TaxError) (solver : Solver)

/-- Go on with `stage` if a change came off. -/
def Changed.goOn (stage : Stage) : Changed → Move
  | .ok s => .next ⟨s, stage⟩
  | .error (e, s) => .failed e s

/-- Hand the fields that waited for inputs over to be evaluated. -/
def supply (s : Solver) : Move :=
  let (fields, inputWaits) := s.inputWaits.releaseAll
  .next ⟨{ s with inputWaits }, .supplying fields⟩

namespace Run

def move : Run → Move
  | ⟨s, .round⟩ => if s.hasWork then .next ⟨s, .attempting⟩ else .finished s.finish
  | ⟨s, .attempting⟩ =>
    match s.unattempted.toList with
    | name :: _ =>
      Changed.goOn .attempting ({ s with unattempted := s.unattempted.erase name }.evaluate name)
    | [] =>
      let (fields, fieldWaits) := s.fieldWaits.releaseAll
      .next ⟨{ s with fieldWaits }, .releasing fields⟩
  | ⟨s, .releasing (name :: rest)⟩ => Changed.goOn (.releasing rest) (s.resume name)
  | ⟨s, .releasing []⟩ => if s.mayAsk then .next ⟨s, .asking s.inputWaits.unmetNames⟩ else s.supply
  | ⟨s, .asking (name :: rest)⟩ =>
    if s.asked.contains name then .next ⟨s, .asking rest⟩
    else
      let s := { s with asked := s.asked.insert name }
      match s.inputSpecs[name]? with
      | none => .failed (.missingInputSpec name) s
      | some spec => .ask ⟨name, spec, s.inputWaits.waiters name⟩ ⟨s, .asking rest⟩
  | ⟨s, .asking []⟩ => s.supply
  | ⟨s, .supplying (name :: rest)⟩ => Changed.goOn (.supplying rest) (s.resume name)
  | ⟨s, .supplying []⟩ => .next ⟨s, .round⟩

/-- Take the answer to a question; after a refusal nothing more is asked. -/
def answer (run : Run) (question : Question) : Option String → Move
  | none => { run.solver with refused := true }.supply
  | some raw =>
    let s := run.solver
    match question.spec.parse raw with
    | .error fault => .failed (.invalidInput question.name raw fault) s
    | .ok _ =>
      match s.inputs.give question.name raw with
      | .error e => .failed e s
      | .ok (_, inputs) =>
        .next ⟨{ s with inputs, inputWaits := s.inputWaits.meet question.name }, run.stage⟩

end Run

/-- How a solve ends: with nothing left to do, with an error, or, where fields ask for ever more
instances, when its moves are used up. -/
inductive Ending where
  | finished (solver : Solver)
  | failed (error : TaxError) (solver : Solver)
  | unfinished (solver : Solver)

namespace Ending

def solver : Ending → Solver
  | finished s | failed _ s | unfinished s => s

end Ending

/-- Follow a run for up to the given number of moves. -/
def follow {m : Type → Type} [Monad m] (ask : Question → m (Option String)) : Nat → Move → m Ending
  | _, .finished s => pure (.finished s)
  | _, .failed e s => pure (.failed e s)
  | 0, .next run => pure (.unfinished run.solver)
  | 0, .ask _ run => pure (.unfinished run.solver)
  | n + 1, .next run => follow ask n run.move
  | n + 1, .ask question run => do follow ask n (run.answer question (← ask question))

/-- Solve what has been asked for, in up to the given number of moves. -/
def solve {m : Type → Type} [Monad m] (s : Solver) (ask : Question → m (Option String))
    (moves : Nat) : m Ending :=
  follow ask moves (.next ⟨s, .round⟩)

/-- More moves than any return takes. -/
def manyMoves : Nat := 4000000000000000000

end Solver
end TaxReturn
