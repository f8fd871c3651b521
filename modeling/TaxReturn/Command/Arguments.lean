import TaxReturn.Command.Help
import TaxReturn.Fault
import TaxReturn.Text.Control
import TaxReturn.Value.Scalar

/-!
The arguments of the command: what is asked for, or what is wrong with the request. The options
for the year and for more messages stand before or behind the subcommand. The value of an option
is the next argument, unless that is an option itself, and it is looked at when the next option
or argument has been recognised.
-/
namespace TaxReturn.Command

structure SolveArgs where
  input : String
  forms : List String
  promptMissing : Bool
  writeBack : Bool
  solution : Option String
  json : Bool
  deriving DecidableEq, Repr

inductive Request where
  | solve (args : SolveArgs)
  | fillPdfs (solution : String) (out : Option String)
  | listForms
  | listFormInputs (form : String)
  deriving DecidableEq, Repr

inductive ArgumentFault where
  /-- The arguments do not have the shape of a request. -/
  | malformed
  | missingValue (label : String)
  | notANumber (label raw : String) (fault : IntegerFault)
  | outOfRange (label raw : String) (value : Int64) (last : Nat)
  deriving DecidableEq, Repr

namespace ArgumentFault

/-- The start of a fault: the value is shown without what a terminal would act on. -/
def invalid (label raw : String) : String :=
  "invalid value '" ++ Text.withoutControls raw ++ "' for '" ++ label ++ "': "

def text : ArgumentFault → String
  | malformed => "unexpected arguments\n\n" ++ usage
  | missingValue label => "a value is required for '" ++ label ++ "' but none was supplied\n"
  | notANumber label raw fault => invalid label raw ++ fault.text ++ "\n"
  | outOfRange label raw value last =>
    invalid label raw ++ Scalar.intText value ++ " is not in 0..=" ++ toString last ++ "\n"

def message (fault : ArgumentFault) : String :=
  "error: " ++ fault.text ++ "\nFor more information, try '--help'.\n"

end ArgumentFault

/-- What stops the reading of arguments before they are a request. -/
inductive Stop where
  | fault (fault : ArgumentFault)
  /-- Help is asked for on a subcommand, or on the command. -/
  | help (topic : Option String)
  | version
  deriving DecidableEq, Repr

/-- What the value of an option or an argument is. -/
inductive Content where
  | text
  /-- The name of a file, which is not empty. -/
  | path
  | year
  deriving DecidableEq, Repr

inductive Shape where
  | flag
  /-- A flag that may be given again. -/
  | counter
  /-- A value, called `label` in messages. -/
  | value (label : String) (content : Content) (many : Bool)
  deriving DecidableEq, Repr

/-- One level of the command: its own options, and what stands on it without an option, by label. -/
structure Level where
  subcommand : Option String
  options : List (String × Shape)
  arguments : List (String × Content)
  subcommands : List String
  deriving Repr

def yearLabel : String := "--year <YEAR>"

/-- The options of every level. -/
def commonOptions : List (String × Shape) :=
  [("verbose", .counter), ("year", .value yearLabel .year false), ("help", .flag)]

def topLevel : Level :=
  ⟨none, ("version", .flag) :: commonOptions, [],
    ["solve", "fill-pdfs", "list-forms", "list-form-inputs", "help"]⟩

/-- The level of a subcommand. -/
def levelOf (subcommand : String) : Level :=
  match subcommand with
  | "solve" =>
    ⟨subcommand, [("form", .value "--form <FORMS>" .text true), ("prompt-missing", .flag),
        ("writeback-input", .flag), ("solution", .value "--solution <SOLUTION>" .path false),
        ("json", .flag)] ++ commonOptions, [("<INPUT>", .path)], []⟩
  | "fill-pdfs" =>
    ⟨subcommand, ("out", .value "--out <OUT>" .path false) :: commonOptions,
      [("<SOLUTION>", .path)], []⟩
  | "list-form-inputs" => ⟨subcommand, commonOptions, [("<FORM>", .text)], []⟩
  | _ => ⟨subcommand, commonOptions, [], []⟩

/-- The option that a letter stands for. -/
def letterName? : Char → Option String
  | 'v' => some "verbose"
  | 'h' => some "help"
  | 'V' => some "version"
  | _ => none

/-- Where a value goes: to an option, or to the arguments. -/
inductive Place where
  | option (name : String) (many : Bool)
  | argument
  deriving DecidableEq, Repr

/-- A value that is still to be looked at, or to come. -/
structure Pending where
  place : Place
  label : String
  content : Content
  raw : Option String
  deriving DecidableEq, Repr

/-- What has been given on one level. -/
structure Given where
  year : Option Nat := none
  flags : List String := []
  values : List (String × String) := []
  arguments : List String := []
  pending : Option Pending := none
  /-- No more options come. -/
  literal : Bool := false
  deriving DecidableEq, Repr

namespace Given

/-- The last year there can be. -/
def lastYear : Nat := 65535

def readYear (raw : String) : Except ArgumentFault Nat :=
  match Scalar.parseInt raw with
  | .error fault => .error (.notANumber yearLabel raw fault)
  | .ok n =>
    if 0 ≤ n.toInt ∧ n.toInt ≤ lastYear then .ok n.toInt.toNat
    else .error (.outOfRange yearLabel raw n lastYear)

variable (given : Given)

def has (name : String) : Bool :=
  given.flags.contains name || (given.values.lookup name).isSome

/-- Put a value in its place. -/
def place (p : Pending) (raw : String) : Except ArgumentFault Given :=
  match p.place with
  | .argument =>
    if p.content = .path ∧ raw.isEmpty then .error (.missingValue p.label)
    else .ok { given with arguments := given.arguments ++ [raw] }
  | .option name many =>
    if !many && given.has name then .error .malformed
    else match p.content with
      | .text => .ok { given with values := given.values ++ [(name, raw)] }
      | .path =>
        if raw.isEmpty then .error (.missingValue p.label)
        else .ok { given with values := given.values ++ [(name, raw)] }
      | .year => do
        let year ← readYear raw
        return { given with year := some year, values := given.values ++ [(name, raw)] }

/-- Look at the value that is pending, if one is. -/
def settle : Except ArgumentFault Given :=
  match given.pending with
  | none => .ok given
  | some p =>
    match p.raw with
    | none => .error (.missingValue p.label)
    | some raw => { given with pending := none }.place p raw

/-- Take a flag. -/
def raise (level : Level) (name : String) (again : Bool) : Except Stop Given :=
  match given.settle with
  | .error fault => .error (.fault fault)
  | .ok given =>
    if name = "help" then .error (.help level.subcommand)
    else if name = "version" then .error .version
    else if !again && given.has name then .error (.fault .malformed)
    else .ok { given with flags := name :: given.flags }

/-- Take an option by name, with the value attached to it if there is one. -/
def takeOption (level : Level) (name : String) (attached : Option String) : Except Stop Given :=
  match level.options.lookup name, attached with
  | none, _ | some .flag, some _ | some .counter, some _ => .error (.fault .malformed)
  | some .flag, none => given.raise level name false
  | some .counter, none => given.raise level name true
  | some (.value label content many), attached =>
    match given.settle with
    | .error fault => .error (.fault fault)
    | .ok given =>
      let p : Pending := ⟨.option name many, label, content, attached⟩
      match attached with
      | none => .ok { given with pending := some p }
      | some raw =>
        match given.place p raw with
        | .ok given => .ok given
        | .error fault => .error (.fault fault)

/-- Take the letters behind a hyphen. -/
def takeLetters (level : Level) : Given → List Char → Except Stop Given
  | given, [] => .ok given
  | given, c :: cs =>
    match letterName? c with
    | none => .error (.fault .malformed)
    | some name =>
      match given.takeOption level name none with
      | .ok given => takeLetters level given cs
      | .error stop => .error stop

/-- Take an argument without an option. -/
def takeArgument (level : Level) (arg : String) : Except Stop Given :=
  let count := given.arguments.length +
    if given.pending.any fun p => p.place = .argument then 1 else 0
  match level.arguments[count]? with
  | none => .error (.fault .malformed)
  | some (label, content) =>
    match given.settle with
    | .error fault => .error (.fault fault)
    | .ok given => .ok { given with pending := some ⟨.argument, label, content, some arg⟩ }

/-- Whether the next argument is the value of an option. -/
def awaitsValue : Bool := given.pending.any fun p => p.raw.isNone

/-- Take the next argument, which is not a subcommand. -/
def take (level : Level) (arg : String) : Except Stop Given :=
  if given.literal then given.takeArgument level arg
  else match arg.toList with
    | ['-', '-'] => .ok { given with literal := true }
    | '-' :: '-' :: name =>
      match Text.cutChars '=' name with
      | some (name, value) =>
        given.takeOption level (String.ofList name) (some (String.ofList value))
      | none => given.takeOption level (String.ofList name) none
    | '-' :: c :: letters => given.takeLetters level (c :: letters)
    | _ =>
      match given.pending with
      | some p =>
        if p.raw.isNone then .ok { given with pending := some { p with raw := some arg } }
        else given.takeArgument level arg
      | none => given.takeArgument level arg

/-- Take arguments up to the end or a subcommand; what is left starts with the subcommand. -/
def takeAll (level : Level) : Given → List String → Except Stop (Given × List String)
  | given, [] => .ok (given, [])
  | given, arg :: rest =>
    if !given.literal && !given.awaitsValue && level.subcommands.contains arg then
      .ok (given, arg :: rest)
    else match given.take level arg with
      | .ok given => takeAll level given rest
      | .error stop => .error stop

end Given

/-- The request of a subcommand, once its arguments are settled. -/
def requestOf (subcommand : String) (given : Given) : Except ArgumentFault Request :=
  match subcommand, given.arguments with
  | "solve", [input] =>
    if given.has "writeback-input" && !given.has "prompt-missing" then .error .malformed
    else
      let forms := (given.values.filter fun v => v.1 == "form").map (·.2)
      .ok (.solve {
        input
        forms := if forms.isEmpty then ["1040"] else forms
        promptMissing := given.has "prompt-missing"
        writeBack := given.has "writeback-input"
        solution := given.values.lookup "solution"
        json := given.has "json" })
  | "fill-pdfs", [solution] => .ok (.fillPdfs solution (given.values.lookup "out"))
  | "list-forms", [] => .ok .listForms
  | "list-form-inputs", [form] => .ok (.listFormInputs form)
  | _, _ => .error .malformed

/-- The year when none is given. -/
def defaultYear : Nat := 2023

/-- Read all the arguments. What is wrong with the subcommand comes before a value that the level
above it has still to look at; of two years that of the subcommand counts. -/
def readArguments (args : List String) : Except Stop (Nat × Request) := do
  let fault := fun {α : Type} (e : Except ArgumentFault α) => e.mapError Stop.fault
  let (top, rest) ← Given.takeAll topLevel {} args
  match rest with
  | [] =>
    let _ ← fault top.settle
    throw (.fault .malformed)
  | ["help"] => throw (.help none)
  | ["help", topic] =>
    if topLevel.subcommands.contains topic then throw (.help topic) else throw (.fault .malformed)
  | "help" :: _ => throw (.fault .malformed)
  | subcommand :: rest =>
    let (given, _) ← Given.takeAll (levelOf subcommand) {} rest
    let given ← fault given.settle
    let request ← fault (requestOf subcommand given)
    let top ← fault top.settle
    return (((given.year <|> top.year).getD defaultYear), request)

end TaxReturn.Command
