import TaxReturn.Proofs.Solver.Growth
import Mathlib.Logic.Relation

/-! A solve in the smallest changes it makes. Between two of them a solve holds in its hands the
fields that it has released and not evaluated yet, and the field that it is about to evaluate. -/
namespace TaxReturn.Solver

/-- Where a solve stands between two changes. -/
structure Point where
  solver : Solver
  /-- The fields released and still to be evaluated. -/
  hand : List String
  /-- The field about to be evaluated. -/
  current : Option String

/-- The fields that a solve holds in its hands. -/
def Point.held (p : Point) : List String := p.current.toList ++ p.hand

/-- The evaluation of a field that is known comes to an outcome. -/
def Yields (s : Solver) (name : String) (outcome : Except Signal Value) : Prop :=
  ∃ form field, s.field? name = some (form, field) ∧
    field.evaluate name ⟨⟨form, s.values⟩, s.inputs⟩ = outcome

/-- The state in which an evaluation is made. -/
def log (s : Solver) (name : String) : Solver := { s with evaluated := name :: s.evaluated }

/-- The changes of a solve, each with all that it depends on. -/
inductive Step : Point → Point → Prop
  | pop {s : Solver} {hand name} (hn : name ∈ s.unattempted) :
      Step ⟨s, hand, none⟩
        ⟨{ s with unattempted := s.unattempted.erase name }, hand, some name⟩
  | resume {s : Solver} {hand name} :
      Step ⟨s, name :: hand, none⟩
        ⟨{ s with waitingOn := s.waitingOn.erase name }, hand, some name⟩
  | known {s : Solver} {hand name} (hv : s.values.has name) :
      Step ⟨s, hand, some name⟩ ⟨s, hand, none⟩
  | commit {s : Solver} {hand name value} (hv : s.values.has name = false)
      (hy : s.Yields name (.ok value)) :
      Step ⟨s, hand, some name⟩
        ⟨{ s.log name with
          values := s.values.commit name value
          fieldWaits := s.fieldWaits.meet name }, hand, none⟩
  | wait {s t : Solver} {hand name dep} (hv : s.values.has name = false)
      (hy : s.Yields name (.error (.unmet dep))) (hd : Discovers (s.log name) dep t)
      (hp : waitPath t.waitingOn name t.waitingOn.size dep = none) :
      Step ⟨s, hand, some name⟩
        ⟨{ t with
          waitingOn := t.waitingOn.insert name dep
          fieldWaits := t.fieldWaits.add dep name }, hand, none⟩
  | lack {s : Solver} {hand name input} (hv : s.values.has name = false)
      (hy : s.Yields name (.error (.missingInput input))) :
      Step ⟨s, hand, some name⟩
        ⟨{ s.log name with inputWaits := s.inputWaits.add input name }, hand, none⟩
  | leave {s : Solver} {hand name detail} (hv : s.values.has name = false)
      (hy : s.Yields name (.error (.notImplemented detail))) :
      Step ⟨s, hand, some name⟩
        ⟨{ s.log name with
          unimplemented :=
            if name ∈ s.unimplemented then s.unimplemented else s.unimplemented ++ [name] },
          hand, none⟩
  | release {s : Solver} {hand} :
      Step ⟨s, hand, none⟩
        ⟨{ s with fieldWaits := s.fieldWaits.releaseAll.2 },
          s.fieldWaits.releaseAll.1 ++ hand, none⟩
  | supply {s : Solver} {hand} :
      Step ⟨s, hand, none⟩
        ⟨{ s with inputWaits := s.inputWaits.releaseAll.2 },
          s.inputWaits.releaseAll.1 ++ hand, none⟩
  | refuse {s : Solver} {hand input spec} (hc : s.canAsk) (hr : s.refused = false)
      (ha : input ∉ s.asked) (hw : s.inputWaits.waiters input ≠ [])
      (hs : s.inputSpecs[input]? = some spec) :
      Step ⟨s, hand, none⟩
        ⟨{ s with asked := s.asked.insert input, refused := true }, hand, none⟩
  | accept {s : Solver} {hand input spec value raw new inputs} (hc : s.canAsk)
      (hr : s.refused = false) (ha : input ∉ s.asked) (hw : s.inputWaits.waiters input ≠ [])
      (hs : s.inputSpecs[input]? = some spec) (hp : spec.parse raw = .ok value)
      (hg : s.inputs.give input raw = .ok (new, inputs)) :
      Step ⟨s, hand, none⟩
        ⟨{ s with
          asked := s.asked.insert input
          inputs
          inputWaits := s.inputWaits.meet input }, hand, none⟩

abbrev Steps : Point → Point → Prop := Relation.ReflTransGen Step

/-- What every change preserves is preserved however long a solve goes on. -/
theorem Steps.preserves {I : Point → Prop} {p p' : Point} (hs : Steps p p')
    (hstep : ∀ p p', I p → Step p p' → I p') (h : I p) : I p' := by
  induction hs with
  | refl => exact h
  | tail _ hs ih => exact hstep _ _ ih hs

/-- The changes that end a solve with an error. -/
inductive Fails : Point → TaxError → Solver → Prop
  | unknown {s : Solver} {hand name reader} (hv : s.values.has name = false)
      (hf : s.field? name = none) :
      Fails ⟨s, hand, some name⟩ (.unknownField name reader) s
  | fatal {s : Solver} {hand name e} (hv : s.values.has name = false)
      (hy : s.Yields name (.error (.fatal e))) :
      Fails ⟨s, hand, some name⟩ e (s.log name)
  | missed {s t : Solver} {hand name dep e} (hv : s.values.has name = false)
      (hy : s.Yields name (.error (.unmet dep)))
      (hd : (s.log name).discover dep name = .error (e, t)) :
      Fails ⟨s, hand, some name⟩ e t
  | cyclic {s t : Solver} {hand name dep path} (hv : s.values.has name = false)
      (hy : s.Yields name (.error (.unmet dep))) (hd : Discovers (s.log name) dep t)
      (hp : waitPath t.waitingOn name t.waitingOn.size dep = some path) :
      Fails ⟨s, hand, some name⟩ (.cyclicDependency (name :: path)) t
  | unspecified {s : Solver} {hand input} (hc : s.canAsk) (hw : s.inputWaits.waiters input ≠ [])
      (hs : s.inputSpecs[input]? = none) :
      Fails ⟨s, hand, none⟩ (.missingInputSpec input) { s with asked := s.asked.insert input }
  | unreadable {s : Solver} {hand input spec raw fault} (hc : s.canAsk)
      (hw : s.inputWaits.waiters input ≠ []) (hs : s.inputSpecs[input]? = some spec)
      (hp : spec.parse raw = .error fault) :
      Fails ⟨s, hand, none⟩ (.invalidInput input raw fault)
        { s with asked := s.asked.insert input }
  | ungiven {s : Solver} {hand input raw e} (hc : s.canAsk)
      (hw : s.inputWaits.waiters input ≠ []) (hg : s.inputs.give input raw = .error e) :
      Fails ⟨s, hand, none⟩ e { s with asked := s.asked.insert input }

variable {s t : Solver} {name : String} {hand : List String}

/-- An evaluation is one change. -/
theorem evaluate_spec (s : Solver) (name : String) (hand : List String) :
    match s.evaluate name with
    | .ok t => Step ⟨s, hand, some name⟩ ⟨t, hand, none⟩
    | .error (e, t) => Fails ⟨s, hand, some name⟩ e t := by
  unfold evaluate
  by_cases hv : s.values.has name
  · simpa [hv] using Step.known hv
  have hv' : s.values.has name = false := by simpa using hv
  simp only [hv, Bool.false_eq_true, if_false]
  cases hentry : s.fields[name]? with
  | none => exact .unknown hv' (by simp [field?, hentry])
  | some entry =>
  cases hfield : entry.field? with
  | none =>
    simp only [hfield]
    exact .unknown hv' (by simp [field?, hentry, hfield])
  | some field =>
    have hf : s.field? name = some (entry.owner, field) := by simp [field?, hentry, hfield]
    have hy : ∀ outcome, field.evaluate name ⟨⟨entry.owner, s.values⟩, s.inputs⟩ = outcome →
        s.Yields name outcome := fun outcome he => ⟨entry.owner, field, hf, he⟩
    simp only [hfield]
    change match (s.log name).settle name
        (field.evaluate name ⟨⟨entry.owner, s.values⟩, s.inputs⟩) with
      | .ok t => Step ⟨s, hand, some name⟩ ⟨t, hand, none⟩
      | .error (e, t) => Fails ⟨s, hand, some name⟩ e t
    cases he : field.evaluate name ⟨⟨entry.owner, s.values⟩, s.inputs⟩ with
    | ok value => exact .commit hv' (hy _ he)
    | error signal =>
      cases signal with
      | missingInput input => exact .lack hv' (hy _ he)
      | notImplemented detail => exact .leave hv' (hy _ he)
      | fatal e => exact .fatal hv' (hy _ he)
      | unmet dep =>
        have hspec := discover_spec (s.log name) dep name
        simp only [settle]
        cases hd : (s.log name).discover dep name with
        | error p =>
          exact .missed hv' (hy _ he) hd
        | ok t =>
          rw [hd] at hspec
          simp only [bind, Except.bind, waitOn]
          cases hp : waitPath t.waitingOn name t.waitingOn.size dep with
          | some path => exact .cyclic hv' (hy _ he) hspec hp
          | none => exact .wait hv' (hy _ he) hspec hp

end TaxReturn.Solver
