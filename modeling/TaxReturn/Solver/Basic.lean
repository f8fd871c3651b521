import TaxReturn.Solution
import TaxReturn.Waitlist

/-!
The state of a solve and what one evaluation does to it. No graph is known beforehand: a field
that needs another one says so when it is evaluated, and from then on waits for it. A field waits
for one name at a time, so the waits form chains, and a chain that closes is an error.
-/
namespace TaxReturn

/-- A field that is known: the instance that it belongs to, and its place among the fields of the
form. -/
structure FieldEntry where
  owner : String
  form : Form
  index : Nat

def FieldEntry.field? (entry : FieldEntry) : Option Field := entry.form.fields[entry.index]?

/-- The fields of an instance, under their qualified names. -/
def Form.entriesAs (form : Form) (name : FormName) : List (String × FieldEntry) :=
  form.fields.mapIdx fun i field => (name.qualify field.name, ⟨name.text, form, i⟩)

structure Solver where
  library : Library
  inputs : InputStore
  values : ValueStore := .empty
  /-- The forms taken up, under the names of their instances. -/
  forms : Name.Table Form := ∅
  /-- The fields of the forms taken up. -/
  fields : Name.Table FieldEntry := ∅
  /-- The inputs of the forms taken up: what the filer can be asked for. -/
  inputSpecs : Name.Table InputSpec := ∅
  /-- Every field that was ever put on the work list. -/
  attempted : Name.Set := ∅
  /-- The work list. -/
  unattempted : Name.Set := ∅
  fieldWaits : Waitlist := .empty
  inputWaits : Waitlist := .empty
  /-- What each field that waits for a field is waiting for. -/
  waitingOn : Name.Table String := ∅
  /-- The fields that a form does not compute, in the order they were found. -/
  unimplemented : List String := []
  /-- Whether there is somebody to ask for inputs. -/
  canAsk : Bool := false
  /-- The inputs that have been asked for. -/
  asked : Name.Set := ∅
  refused : Bool := false
  solved : Bool := false
  done : Bool := false
  /-- The fields evaluated so far, the last one first. -/
  evaluated : List String := []

namespace Solver

/-- What a change leads to. An error comes with the state that it leaves behind. -/
abbrev Changed : Type := Except (TaxError × Solver) Solver

variable (s : Solver)

/-- Put a field on the work list, once. -/
def enqueue (name : String) : Solver :=
  if s.attempted.contains name then s
  else { s with
    attempted := s.attempted.insert name
    unattempted := s.unattempted.insert name }

def enqueueAll (names : List String) : Solver := names.foldl enqueue s

/-- Know an instance of a form, its fields, and how its inputs are read. Of fields with one name,
which no sound form has, the first one stands. -/
def register (name : FormName) (form : Form) : Solver :=
  { s with
    inputs := s.inputs.addSpecs (form.inputsAs name)
    inputSpecs := s.inputSpecs.insertMany (form.inputsAs name)
    fields := (form.entriesAs name).foldr (fun e fields => fields.insert e.1 e.2) s.fields
    forms := s.forms.insert name.text form
    done := false }

/-- Take up an instance of a form: its inputs can be read and its required fields are to be
solved. -/
def takeUp (name : FormName) (form : Form) : Solver :=
  (s.register name form).enqueueAll (form.requiredAs name)

/-- The first input or field of an instance that is known already. -/
def duplicate? (name : FormName) (form : Form) : Option String :=
  match (form.inputsAs name).find? fun input => s.inputSpecs.contains input.1 with
  | some (input, _) => some (input ++ " (input)")
  | none =>
    match (form.entriesAs name).find? fun entry => s.fields.contains entry.1 with
    | some (field, _) => some (field ++ " (field)")
    | none => none

/-- Ask for a form. One that is taken up already stays as it is. -/
def addForm (qualified : String) : Except TaxError Solver := do
  let (name, form) ← s.library.instantiate qualified
  if s.forms.contains name.text then return s
  if let some known := s.duplicate? name form then throw (.duplicateName known)
  return s.takeUp name form

/-- The field with a qualified name, if its form is taken up, and the instance it belongs to. -/
def field? (qualified : String) : Option (String × Field) := do
  let entry ← s.fields[qualified]?
  return (entry.owner, ← entry.field?)

/-- Have `dep` solved, which `reader` needs. -/
def discover (dep reader : String) : Changed :=
  if s.attempted.contains dep then .ok s
  else match Name.split dep with
    | none => .error (.invalidName dep (.unscoped reader), s)
    | some (form, _) =>
      match (if s.forms.contains form then .ok s else s.addForm form) with
      | .error e => .error (e, s)
      | .ok s =>
        if s.fields.contains dep then .ok (s.enqueue dep)
        else .error (.unknownField dep reader, s)

/-- The chain of waits from `current` to `goal`, if it leads there. -/
def waitPath (waitingOn : Name.Table String) (goal : String) : Nat → String → Option (List String)
  | fuel, current =>
    if current = goal then some [current]
    else match fuel, waitingOn[current]? with
      | fuel + 1, some next => (waitPath waitingOn goal fuel next).map (current :: ·)
      | _, _ => none

/-- Have `waiter` wait for `dep`, unless that closes a chain. A chain is no longer than there are
fields that wait. -/
def waitOn (dep waiter : String) : Changed :=
  match waitPath s.waitingOn waiter s.waitingOn.size dep with
  | some path => .error (.cyclicDependency (waiter :: path), s)
  | none => .ok { s with waitingOn := s.waitingOn.insert waiter dep }

/-- What the evaluation of a field leads to. -/
def settle (name : String) : Except Signal Value → Changed
  | .ok value => .ok { s with
      values := s.values.commit name value
      fieldWaits := s.fieldWaits.meet name }
  | .error (.unmet dep) => do
    let s ← s.discover dep name
    let s ← s.waitOn dep name
    return { s with fieldWaits := s.fieldWaits.add dep name }
  | .error (.missingInput input) => .ok { s with inputWaits := s.inputWaits.add input name }
  | .error (.notImplemented _) =>
    .ok { s with
      unimplemented :=
        if name ∈ s.unimplemented then s.unimplemented else s.unimplemented ++ [name] }
  | .error (.fatal e) => .error (e, s)

/-- Evaluate a field, unless it is committed. -/
def evaluate (name : String) : Changed :=
  if s.values.has name then .ok s
  else match s.fields[name]? with
    | none => .error (.unknownField name name, s)
    | some entry =>
      match entry.field? with
      | none => .error (.unknownField name entry.owner, s)
      | some field =>
        let s := { s with evaluated := name :: s.evaluated }
        s.settle name (field.evaluate name ⟨⟨entry.owner, s.values⟩, s.inputs⟩)

/-- Evaluate a field that has waited. -/
def resume (name : String) : Changed :=
  { s with waitingOn := s.waitingOn.erase name }.evaluate name

/-- Whether some missing input can still be asked for. -/
def mayAsk : Bool :=
  s.canAsk && !s.refused && s.inputWaits.unmetNames.any fun name => !s.asked.contains name

def hasWork : Bool :=
  !s.unattempted.isEmpty || s.fieldWaits.hasMet || s.inputWaits.hasMet || s.mayAsk

/-- Nothing is left to do; the return is solved if nothing is outstanding. -/
def finish : Solver :=
  { s with
    done := true
    solved := !s.fieldWaits.hasUnmet && !s.inputWaits.hasUnmet && s.unimplemented.isEmpty }

/-- Put committed values into a solution. -/
def encodeInto (solution : Solution) : List (String × Value) → Except TaxError Solution
  | [] => .ok solution
  | (name, value) :: rest =>
    match s.field? name with
    | none => .error (.unknownField name "solution")
    | some (_, field) => do encodeInto (← solution.insert name (field.encode value)) rest

/-- The committed values as text, with a section for every form taken up. -/
def solution : Except TaxError Solution :=
  s.encodeInto (s.forms.keys.foldl Solution.touch .empty) s.values.toList

end Solver
end TaxReturn
