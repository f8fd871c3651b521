import TaxReturn.Solver.Run
import TaxReturn.Years

/-!
A whole solve, from inputs to a solution, and what is said about a return that is not complete.
-/
namespace TaxReturn

structure Report where
  solved : Bool
  solution : Solution
  unimplemented : List String
  unmetInputs : List (String × List String)
  unmetFields : List (String × List String)
  inputs : InputStore

/-- Why there is no report. -/
inductive SolveError where
  | year (error : UnsupportedYear)
  | request (form : String) (error : TaxError)
  | solving (error : TaxError)
  /-- Fields ask for ever more instances. -/
  | endless

def SolveError.message : SolveError → String
  | .year error => error.message
  | .request form error => "cannot add form " ++ form ++ ": " ++ error.message
  | .solving error => error.message
  | .endless => "the fields ask for ever more instances"

namespace Report

def needs (items : List (String × List String)) : String :=
  String.join (items.map fun p => "  " ++ p.1 ++ " (needed by " ++ Text.join ", " p.2 ++ ")\n")

/-- What is missing, in up to three paragraphs. -/
def text (report : Report) : String :=
  (if report.unimplemented.isEmpty then ""
    else "Not implemented:\n" ++
      String.join (report.unimplemented.map fun f => "  " ++ f ++ "\n")) ++
  (if report.unmetInputs.isEmpty then "" else "Missing inputs:\n" ++ needs report.unmetInputs) ++
  (if report.unmetFields.isEmpty then "" else "Fields not computed:\n" ++ needs report.unmetFields)

/-- What a finished solver has to report. -/
def ofSolver (s : Solver) : Except TaxError Report :=
  s.solution.map fun solution => {
    solved := s.solved
    solution
    unimplemented := s.unimplemented
    unmetInputs := s.inputWaits.unmet
    unmetFields := s.fieldWaits.unmet
    inputs := s.inputs }

end Report

/-- Ask a solver for forms, up to the first that it refuses. -/
def Solver.addForms (s : Solver) : List String → Except (String × TaxError) Solver
  | [] => .ok s
  | form :: rest =>
    match s.addForm form with
    | .error e => .error (form, e)
    | .ok s => addForms s rest

/-- Solve a return for a year. Inputs that are missing are asked for if `ask` is given. -/
def solveReturn {m : Type → Type} [Monad m] (inputs : InputStore) (year : Nat) (forms : List String)
    (ask : Option (Question → m (Option String))) : m (Except SolveError Report) :=
  match libraryFor year with
  | .error e => pure (.error (.year e))
  | .ok library =>
    let solver : Solver := { library, inputs, canAsk := ask.isSome }
    match solver.addForms forms with
    | .error (form, e) => pure (.error (.request form e))
    | .ok solver => do
      let ending ← solver.solve (ask.getD fun _ => pure none) Solver.manyMoves
      match ending with
      | .failed e _ => return .error (.solving e)
      | .unfinished _ => return .error .endless
      | .finished s =>
        match Report.ofSolver s with
        | .ok report => return .ok report
        | .error e => return .error (.solving e)

end TaxReturn
