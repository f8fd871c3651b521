import TaxReturn.Command.Arguments
import TaxReturn.Filing.Plan
import TaxReturn.Listing
import TaxReturn.Report

/-!
What the command does. It reads and writes files, prints, and asks the filer through a host, so
that the same command runs at a terminal and on files held in memory.
-/
namespace TaxReturn.Command

/-- The place where a command runs. -/
structure Host (m : Type → Type) where
  readFile : String → m (Except FileFault String)
  writeFile : String → String → m (Except FileFault Unit)
  print : String → m Unit
  /-- Show a message, apart from what is printed. -/
  say : String → m Unit
  ask : Question → m (Option String)

inductive Outcome where
  | complete
  /-- The return lacks fields. -/
  | incomplete
  | failed
  /-- The arguments are no request. -/
  | refused
  deriving DecidableEq, Repr

/-- The exit code. -/
def Outcome.code : Outcome → Nat
  | complete => 0
  | failed => 1
  | incomplete | refused => 2

/-- Why a request cannot be met. -/
inductive Failure where
  | readInputs (path : String) (error : TaxError)
  | writeInputs (path : String) (fault : FileFault)
  | readSolution (path : String) (error : TaxError)
  | writeSolution (path : String) (fault : FileFault)
  | writePlan (path : String) (fault : FileFault)
  | year (error : UnsupportedYear)
  | solve (error : SolveError)
  | filing (error : FilingError)
  | listInputs (form : String) (error : TaxError)

/-- An error with its cause, if it has one. -/
def withCause (error : TaxError) : String :=
  match error with
  | .file fault => error.message ++ ": " ++ fault.text
  | error => error.message

namespace Failure

def message : Failure → String
  | readInputs path error => "failed to read input file: " ++ path ++ ": " ++ withCause error
  | writeInputs path fault =>
    "failed to write input file: " ++ path ++ ": " ++ withCause (.file fault)
  | readSolution path error => "failed to read solution: " ++ path ++ ": " ++ withCause error
  | writeSolution path fault => "failed to write solution: " ++ path ++ ": " ++ fault.text
  | writePlan path fault => "failed to write fill plan: " ++ path ++ ": " ++ withCause (.file fault)
  | year error => error.message
  | solve error => error.message
  | filing error => error.message
  | listInputs form error => "cannot list inputs of " ++ form ++ ": " ++ error.message

/-- The line of a log about a failure. -/
def line (failure : Failure) : String := "ERROR " ++ Text.writeOutControls failure.message ++ "\n"

end Failure

section
variable {m : Type → Type} [Monad m] (host : Host m)

abbrev Action (m : Type → Type) (α : Type) : Type := ExceptT Failure m α

/-- Read a file and make sense of it. -/
def readAs {α : Type} (path : String) (read : String → Except TaxError α)
    (failure : TaxError → Failure) : Action m α :=
  ExceptT.mk do
    match ← host.readFile path with
    | .error fault => return .error (failure (.file fault))
    | .ok text => return (read text).mapError failure

def writeTo (path text : String) (failure : FileFault → Failure) : Action m Unit :=
  ExceptT.mk do return (← host.writeFile path text).mapError failure

/-- Write to a file if one is named, or print. -/
def emit (text : String) (path : Option String) (failure : String → FileFault → Failure) :
    Action m Unit :=
  match path with
  | some path => writeTo host path text (failure path)
  | none => ExceptT.lift (host.print text)

def rendered (report : Report) (json : Bool) : String :=
  if json then report.solution.toJson.pretty 0 ++ "\n" else report.solution.text

/-- Solve a return. What is missing is reported when the solution is out, and before the inputs
are written back. -/
def solve (year : Nat) (args : SolveArgs) : Action m Outcome := do
  let inputs ← readAs host args.input InputStore.ofText (.readInputs args.input)
  let prompter := if args.promptMissing then some host.ask else none
  let report ← ExceptT.mk do
    let report ← solveReturn inputs year args.forms prompter
    return report.mapError Failure.solve
  emit host (rendered report args.json) args.solution .writeSolution
  if !report.solved then ExceptT.lift (host.say report.text)
  if args.writeBack then writeTo host args.input report.inputs.text (.writeInputs args.input)
  return if report.solved then .complete else .incomplete

/-- The plan of a solution, for the printed forms of a year. -/
def planFor (year : Nat) (solution : Solution) : Except Failure (List FiledForm) := do
  let library ← (libraryFor year).mapError Failure.year
  let printed ← (printedFormsFor year).mapError Failure.year
  (library.plan printed solution).mapError Failure.filing

def fillPdfs (year : Nat) (path : String) (out : Option String) : Action m Outcome := do
  let solution ← readAs host path Solution.ofText (.readSolution path)
  let plan ← ExceptT.mk (pure (planFor year solution))
  emit host ((Json.list (plan.map FiledForm.toJson)).pretty 0 ++ "\n") out .writePlan
  return .complete

def listForms (year : Nat) : Action m Outcome := do
  let library ← ExceptT.mk (pure ((libraryFor year).mapError Failure.year))
  ExceptT.lift (host.print library.listForms)
  return .complete

def listFormInputs (year : Nat) (form : String) : Action m Outcome := do
  let library ← ExceptT.mk (pure ((libraryFor year).mapError Failure.year))
  let listing ← ExceptT.mk (pure ((library.listInputs form).mapError (Failure.listInputs form)))
  ExceptT.lift (host.print listing)
  return .complete

def meet (year : Nat) : Request → Action m Outcome
  | .solve args => solve host year args
  | .fillPdfs solution out => fillPdfs host year solution out
  | .listForms => listForms host year
  | .listFormInputs form => listFormInputs host year form

/-- Run the command with its arguments. -/
def run (args : List String) : m Outcome := do
  match readArguments args with
  | .error (.help topic) => host.print (help topic); return .complete
  | .error .version => host.print version; return .complete
  | .error (.fault fault) => host.say fault.message; return .refused
  | .ok (year, request) =>
    match ← (meet host year request).run with
    | .ok outcome => return outcome
    | .error failure => host.say failure.line; return .failed

end
end TaxReturn.Command
