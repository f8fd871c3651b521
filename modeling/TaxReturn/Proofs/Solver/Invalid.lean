import TaxReturn.Proofs.Solver.Questions
import TaxReturn.Proofs.Solver.Soundness

/-! Which inputs a solve finds invalid. An answer that can be read is taken, so that only the
evaluation of a field can find an input invalid. What was asked for is no such input: it was not
given before, and what is given since can be read. -/
namespace TaxReturn

/-- What a computation finds invalid is given and cannot be read. -/
def Compute.FaultsGiven {α : Type} (c : Compute α) : Prop :=
  ∀ a n raw fault, c a = .error (.fatal (.invalidInput n raw fault)) →
    a.inputs.parse n = .error (.fatal (.invalidInput n raw fault))

namespace Compute

variable {α β : Type} {c : Compute α} {key : String}

/-- A reader of an input finds invalid what it reads. -/
theorem faultsGiven_input : (input key).FaultsGiven := by
  intro a n raw fault h
  have hn : a.qualify key = n := by
    unfold input InputStore.parse at h
    split at h
    · cases h
    · split at h
      · cases h
      · split at h <;> cases h
        rfl
  exact hn ▸ h

theorem FaultsGiven.bind {k : α → Compute β} (hc : c.FaultsGiven) (hk : ∀ x, (k x).FaultsGiven) :
    (c >>= k).FaultsGiven := by
  intro a n raw fault h
  rw [bind_apply] at h
  cases hx : c a with
  | ok x =>
    rw [hx] at h
    exact hk x a n raw fault h
  | error signal =>
    rw [hx] at h
    cases h
    exact hc a n raw fault hx

end Compute

/-- All that the value functions of a library find invalid is given and cannot be read. -/
def Library.FaultsGiven (library : Library) : Prop :=
  ∀ form ∈ library.forms, ∀ field ∈ form.fields, field.compute.FaultsGiven

/-- What the value functions of a library report of an input is so: one that is missing is not
given, and one that is invalid is given and cannot be read. -/
structure Library.Candid (library : Library) : Prop where
  missing : library.LacksAbsent
  invalid : library.FaultsGiven

/-- A computation, not the check of its result, finds an input invalid. -/
theorem Field.compute_of_invalid {field : Field} {f n raw : String} {fault : ValueFault}
    {scope : Scope} (h : field.evaluate f scope = .error (.fatal (.invalidInput n raw fault))) :
    field.compute scope = .error (.fatal (.invalidInput n raw fault)) := by
  unfold evaluate at h
  cases hc : field.compute scope with
  | error signal => simpa [hc, bind, Except.bind] using h
  | ok w =>
    simp only [hc, bind, Except.bind] at h
    cases hk : field.kind.canonicalize w <;> simp [hk] at h

namespace Solver

variable {s t : Solver} {p p' : Point} {f n raw : String} {fault : ValueFault} {q : Question}
  {run : Run} {m : Move} {l : List Moment} {library : Library} {inputs : InputStore}
  {known : Name.Table InputSpec}

/-- An evaluation that finds an input invalid leaves it at that. -/
theorem yields_of_evaluate (h : s.evaluate f = .error (.invalidInput n raw fault, t)) :
    t.Yields f (.error (.fatal (.invalidInput n raw fault))) := by
  have hspec := evaluate_spec s f []
  simp only [h] at hspec
  generalize he : TaxError.invalidInput n raw fault = e at hspec
  cases hspec with
  | fatal hv hy =>
    subst he
    exact hy
  | missed hv hy hd =>
    subst he
    cases aboutNames_of_discover hd
  | unknown => cases he
  | cyclic => cases he

theorem yields_of_goOn {stage : Stage}
    (h : Changed.goOn stage (s.evaluate f) = .failed (.invalidInput n raw fault) t) :
    t.Yields f (.error (.fatal (.invalidInput n raw fault))) := by
  cases he : s.evaluate f with
  | ok u => simp [Changed.goOn, he] at h
  | error x =>
    obtain ⟨e, u⟩ := x
    simp only [Changed.goOn, he, Move.failed.injEq] at h
    obtain ⟨rfl, rfl⟩ := h
    exact yields_of_evaluate he

/-- Of the moves that ask nobody only an evaluation finds an input invalid. -/
theorem yields_of_move (h : run.move = .failed (.invalidInput n raw fault) t) :
    ∃ f, t.Yields f (.error (.fatal (.invalidInput n raw fault))) := by
  obtain ⟨s, stage⟩ := run
  cases stage with
  | round =>
    simp only [Run.move] at h
    split at h <;> cases h
  | attempting =>
    simp only [Run.move] at h
    split at h
    · exact ⟨_, yields_of_goOn h⟩
    · cases h
  | releasing fields =>
    cases fields with
    | cons name rest => exact ⟨_, yields_of_goOn h⟩
    | nil =>
      simp only [Run.move, supply] at h
      split at h <;> cases h
  | supplying fields =>
    cases fields with
    | cons name rest => exact ⟨_, yields_of_goOn h⟩
    | nil => cases h
  | asking fields =>
    cases fields with
    | nil => cases h
    | cons name rest =>
      simp only [Run.move] at h
      split at h
      · cases h
      · split at h <;> cases h

/-- An answer that can be read is not found invalid. -/
theorem answer_ne_invalid {answer : Option String}
    (hread : ∀ r, answer = some r → ∃ v, q.spec.parse r = .ok v) :
    run.answer q answer ≠ .failed (.invalidInput n raw fault) t := by
  intro h
  cases answer with
  | none => cases h
  | some r =>
    obtain ⟨v, hv⟩ := hread r rfl
    simp only [Run.answer, hv] at h
    split at h
    · rename_i e hg
      simp only [Move.failed.injEq] at h
      obtain ⟨rfl, -⟩ := h
      cases aboutNames_of_give hg
    · cases h

/-- Where all that is answered can be read, only a field can find an input invalid. -/
theorem yields_of_follow {σ : Type} {ask : Question → StateM σ (Option String)} {moves : ℕ}
    {w w' : σ} (hask : ∀ q w raw, ((ask q).run w).1 = some raw → ∃ v, q.spec.parse raw = .ok v)
    (hm : m ≠ .failed (.invalidInput n raw fault) t)
    (h : (follow ask moves m).run w = (.failed (.invalidInput n raw fault) t, w')) :
    ∃ f, t.Yields f (.error (.fatal (.invalidInput n raw fault))) := by
  induction moves generalizing m w with
  | zero =>
    cases m <;> cases h
    exact absurd rfl hm
  | succ moves ih =>
    cases m with
    | finished s => cases h
    | failed e s =>
      cases h
      exact absurd rfl hm
    | next run =>
      by_cases hmove : run.move = .failed (.invalidInput n raw fault) t
      · exact yields_of_move hmove
      · exact ih hmove h
    | ask q run =>
      exact ih (answer_ne_invalid (hask q w)) (w := ((ask q).run w).2) h

/-- What was asked for and is given can be read. -/
def Understood (s : Solver) : Prop :=
  ∀ i ∈ s.asked, ∀ raw, s.inputs.raw? i = some raw →
    ∃ spec v, s.inputSpecs[i]? = some spec ∧ spec.parse raw = .ok v

theorem Registered.getElem?_inputSpecs {spec : InputSpec} (h : Registered library known s)
    (ht : Registered library known t) (hforms : ∀ q ∈ s.forms, q ∈ t.forms)
    (hn : s.inputSpecs[n]? = some spec) : t.inputSpecs[n]? = some spec := by
  obtain ⟨⟨q, base, hs, hq⟩, hl⟩ := (h.inputSpec n spec).mp hn
  exact (ht.inputSpec n spec).mpr ⟨⟨q, base, hs, hforms q hq⟩, hl⟩

/-- What is asked for beside is not given. -/
theorem Understood.carry (h : Understood s) (hs : Registered library known s)
    (ht : Registered library known t) (hforms : ∀ q ∈ s.forms, q ∈ t.forms)
    (hg : t.inputs.given = s.inputs.given)
    (hasked : ∀ i ∈ t.asked, i ∈ s.asked ∨ s.inputs.raw? i = none) : Understood t := by
  intro i hi raw hraw
  have hraw : s.inputs.raw? i = some raw := by simpa only [InputStore.raw?, hg] using hraw
  rcases hasked i hi with hi | hnone
  · obtain ⟨spec, v, hspec, hv⟩ := h i hi raw hraw
    exact ⟨spec, v, hs.getElem?_inputSpecs ht hforms hspec, hv⟩
  · rw [hnone] at hraw
    cases hraw

/-- An input that fields wait for was asked for, or it is not given. -/
theorem Conversed.asked_or (h : Conversed library inputs l p)
    (hw : p.solver.inputWaits.waiters n ≠ []) :
    n ∈ p.solver.asked ∨ p.solver.inputs.raw? n = none := by
  obtain ⟨f, hf⟩ := List.exists_mem_of_ne_nil _ hw
  exact (h.lacking f n hf).imp_left (h.met n)

theorem Understood.fails {e : TaxError} (hu : Understood p.solver)
    (h : Conversed library inputs l p) (hf : Fails p e t) : Understood t := by
  have hreg := registered_fails h.registered hf
  obtain ⟨-, hg, -, -⟩ := hf.frame
  cases hf with
  | unknown | fatal => exact hu.carry h.registered hreg (fun _ hq => hq) hg fun _ hi => .inl hi
  | missed hv hy hd =>
    have hm := misses_of_discover hd
    obtain ⟨new, hgrows⟩ := hm.grows
    exact hu.carry h.registered hreg (fun _ => hm.mem_forms) hg fun i hi => .inl (hgrows.asked ▸ hi)
  | cyclic hv hy hd hp =>
    obtain ⟨new, hgrows, -⟩ := hd.grows
    exact hu.carry h.registered hreg (fun _ hq => hd.mem_forms.mpr (.inl hq)) hg
      fun i hi => .inl (hgrows.asked ▸ hi)
  | unspecified hc hw | unreadable hc hw | ungiven hc hw =>
    refine hu.carry h.registered hreg (fun _ hq => hq) hg fun i hi => ?_
    rcases Name.mem_insert.mp hi with rfl | hi
    · exact h.asked_or hw
    · exact .inl hi

theorem Understood.asking (hu : Understood s) (h : Conversed library inputs l ⟨s, [], none⟩)
    (hq : s.Asks q) : Understood (s.asking q) := by
  refine hu.carry h.registered (h.registered.same ⟨rfl, rfl, rfl, rfl, rfl, rfl⟩)
    (fun _ hq => hq) rfl fun i hi => ?_
  rcases Name.mem_insert.mp hi with rfl | hi
  · exact h.asked_or hq.needed
  · exact .inl hi

theorem Understood.answers {answer : Option String} (hu : Understood s)
    (h : Conversed library inputs l ⟨s, [], none⟩) (hq : s.Asks q)
    (ha : Answers s q answer t) : Understood t := by
  cases ha with
  | refused => exact hu.asking h hq
  | @accepted raw value new inputs' hp hg =>
    intro i hi r hr
    rw [InputStore.raw?_give hg] at hr
    split at hr
    · rename_i hi
      cases hr
      exact ⟨q.spec, value, hi.1 ▸ hq.spec, hp⟩
    · exact hu.asking h hq i hi r hr

/-- A turn asks nobody, and forms that it takes up change nothing for the others. -/
theorem Understood.turn (hu : Understood p.solver) (h : Conversed library inputs l p)
    (ht : Turn s p p') : Understood p'.solver :=
  hu.carry h.registered (registered_step h.registered ht.step) (fun _ => mem_forms_step ht.step)
    ht.given.1 fun _ hi => .inl (ht.asked ▸ hi)

theorem keeps_understood (hlacks : library.LacksAbsent) :
    Keeps fun l p => Conversed library inputs l p ∧ Understood p.solver where
  pass l s hand h := ⟨(keeps_conversed hlacks).pass l s hand h.1, h.2⟩
  turn l x p p' hx h ht := ⟨(keeps_conversed hlacks).turn l x p p' hx h.1 ht, h.2.turn h.1 ht⟩
  fails l p e t h hf := ⟨(keeps_conversed hlacks).fails l p e t h.1 hf, h.2.fails h.1 hf⟩
  asking l s q h hq := ⟨(keeps_conversed hlacks).asking l s q h.1 hq, h.2.asking h.1 hq⟩
  answers l s q answer t h hq ha :=
    ⟨(keeps_conversed hlacks).answers l s q answer t h.1 hq ha, h.2.answers h.1 hq ha⟩
  rejects l s q raw h hq hr :=
    ⟨(keeps_conversed hlacks).rejects l s q raw h.1 hq hr, h.2.asking h.1 hq⟩
  addForm l s t q h ha := by
    have hreg := registered_addForm h.1.registered ha
    obtain ⟨new, hg⟩ := addForm_grows ha
    exact ⟨(keeps_conversed hlacks).addForm l s t q h.1 ha, h.2.carry h.1.registered hreg
      (fun _ => mem_forms_addForm ha) hg.given fun i hi => .inl (hg.asked ▸ hi)⟩
  finish l s h hw := ⟨(keeps_conversed hlacks).finish l s h.1 hw, h.2⟩

/-- No reader of the store finds invalid what was asked for. -/
theorem Understood.parse_ne_invalid (hu : Understood s) (h : Registered library known s)
    (hn : n ∈ s.asked) : s.inputs.parse n ≠ .error (.fatal (.invalidInput n raw fault)) := by
  intro hp
  unfold InputStore.parse at hp
  split at hp
  · cases hp
  · rename_i spec hspec
    split at hp
    · cases hp
    · rename_i r hr
      obtain ⟨spec', v, hspec', hv⟩ := hu n hn r hr
      rw [InputStore.spec?, h.spec, hspec', Option.some_or] at hspec
      cases hspec
      simp [hv] at hp

/-- A field that finds invalid only what it was given has not found what was asked for. -/
theorem Understood.notMem_asked (hfaults : library.FaultsGiven) (hu : Understood s)
    (h : Registered library known s)
    (hy : s.Yields f (.error (.fatal (.invalidInput n raw fault)))) : n ∉ s.asked := by
  intro hn
  obtain ⟨q, field, hfield, he⟩ := hy
  obtain ⟨base, form, -, hq, hb⟩ := h.field?_eq_some_iff.mp hfield
  obtain ⟨name, hi⟩ := h.instantiated q form hq
  have hp := hfaults form (Library.mem_forms_of_instantiate hi) field
    (List.mem_of_find?_eq_some hb) _ n raw fault (Field.compute_of_invalid he)
  exact hu.parse_ne_invalid h hn hp

/-- What is kept of a solve after a session, whoever answers. -/
theorem understood_of_chronicle {σ : Type} {canAsk : Bool} {calls : List (Call × Reply)}
    (hlacks : library.LacksAbsent) (h : Chronicle (initial library inputs canAsk) calls l s)
    (ask : Question → StateM σ (Option String)) (moves : ℕ) (w : σ) :
    ∃ hand, Conversed library inputs (l ++ diary ask moves (.next ⟨s, .round⟩) w)
        ⟨((s.solve ask moves).run w).1.solver, hand, none⟩ ∧
      Understood ((s.solve ask moves).run w).1.solver := by
  have hI : Keeps fun l p => Conversed library inputs l p ∧ Understood p.solver :=
    keeps_understood hlacks
  have hstart : Understood (initial library inputs canAsk) := by simp [Understood, initial]
  obtain ⟨hand, hs, -⟩ := hI.solve ask moves w (hI.chronicle h ⟨conversed_initial, hstart⟩)
  exact ⟨hand, hs⟩

end Solver
end TaxReturn
