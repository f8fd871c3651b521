import TaxReturn.Proofs.Names
import TaxReturn.Solver.Basic
import Mathlib.Tactic.Tauto

/-! Forms that are taken up bring their inputs and required fields, and a field that is found out
about comes to the work list. Neither touches what is committed, waited for or asked. -/
namespace TaxReturn.Solver

variable {s t u : Solver} {f dep reader q : String} {name : FormName} {form : Form}
  {names : List String} {new : String → Prop}

/-- From `s` to `t` fields come to the work list, forms and their inputs come to be known, and
nothing else changes. -/
structure Grows (s t : Solver) (new : String → Prop) : Prop where
  library : t.library = s.library
  given : t.inputs.given = s.inputs.given
  values : t.values = s.values
  fieldWaits : t.fieldWaits = s.fieldWaits
  inputWaits : t.inputWaits = s.inputWaits
  waitingOn : t.waitingOn = s.waitingOn
  unimplemented : t.unimplemented = s.unimplemented
  canAsk : t.canAsk = s.canAsk
  asked : t.asked = s.asked
  refused : t.refused = s.refused
  solved : t.solved = s.solved
  evaluated : t.evaluated = s.evaluated
  attempted : ∀ f, f ∈ t.attempted ↔ f ∈ s.attempted ∨ new f
  unattempted : ∀ f, f ∈ t.unattempted ↔ f ∈ s.unattempted ∨ new f ∧ f ∉ s.attempted

theorem Grows.refl : Grows s s fun _ => False := by constructor <;> simp

theorem Grows.trans {new' : String → Prop} (h : Grows s t new) (h' : Grows t u new') :
    Grows s u fun f => new f ∨ new' f where
  library := h'.library.trans h.library
  given := h'.given.trans h.given
  values := h'.values.trans h.values
  fieldWaits := h'.fieldWaits.trans h.fieldWaits
  inputWaits := h'.inputWaits.trans h.inputWaits
  waitingOn := h'.waitingOn.trans h.waitingOn
  unimplemented := h'.unimplemented.trans h.unimplemented
  canAsk := h'.canAsk.trans h.canAsk
  asked := h'.asked.trans h.asked
  refused := h'.refused.trans h.refused
  solved := h'.solved.trans h.solved
  evaluated := h'.evaluated.trans h.evaluated
  attempted f := by rw [h'.attempted, h.attempted, or_assoc]
  unattempted f := by
    rw [h'.unattempted, h.unattempted, h.attempted]
    tauto

theorem Grows.congr {new' : String → Prop} (h : Grows s t new) (hn : ∀ f, new f ↔ new' f) :
    Grows s t new' := by
  have he : new = new' := funext fun f => propext (hn f)
  exact he ▸ h

/-- What one name brings to the work list leaves the forms and inputs as they are. -/
theorem enqueue_frame : s.enqueue f =
    { s with
      attempted := (s.enqueue f).attempted
      unattempted := (s.enqueue f).unattempted } := by
  unfold enqueue
  split <;> rfl

theorem mem_attempted_enqueue : f ∈ (s.enqueue dep).attempted ↔ f ∈ s.attempted ∨ f = dep := by
  by_cases hd : dep ∈ s.attempted
  · have he : s.enqueue dep = s := by simp [enqueue, hd]
    rw [he]
    constructor
    · exact .inl
    · rintro (h | rfl)
      · exact h
      · exact hd
  · simp only [enqueue, Std.ExtTreeSet.contains_iff_mem, hd, if_false, Name.mem_insert]
    exact or_comm

theorem mem_unattempted_enqueue :
    f ∈ (s.enqueue dep).unattempted ↔ f ∈ s.unattempted ∨ f = dep ∧ f ∉ s.attempted := by
  by_cases hd : dep ∈ s.attempted
  · have he : s.enqueue dep = s := by simp [enqueue, hd]
    rw [he]
    constructor
    · exact .inl
    · rintro (h | ⟨rfl, h⟩)
      · exact h
      · exact absurd hd h
  · simp only [enqueue, Std.ExtTreeSet.contains_iff_mem, hd, if_false, Name.mem_insert]
    constructor
    · rintro (rfl | h)
      · exact .inr ⟨rfl, hd⟩
      · exact .inl h
    · rintro (h | ⟨rfl, -⟩)
      · exact .inr h
      · exact .inl rfl

theorem enqueue_grows : Grows s (s.enqueue dep) (· = dep) := by
  have h := enqueue_frame (s := s) (f := dep)
  constructor
  case attempted => exact fun f => mem_attempted_enqueue
  case unattempted => exact fun f => mem_unattempted_enqueue
  all_goals rw [h]

@[simp] theorem forms_enqueue : (s.enqueue dep).forms = s.forms := by rw [enqueue_frame]

@[simp] theorem inputs_enqueue : (s.enqueue dep).inputs = s.inputs := by rw [enqueue_frame]

@[simp] theorem inputSpecs_enqueue : (s.enqueue dep).inputSpecs = s.inputSpecs := by
  rw [enqueue_frame]

@[simp] theorem fields_enqueue : (s.enqueue dep).fields = s.fields := by rw [enqueue_frame]

@[simp] theorem field?_enqueue : (s.enqueue dep).field? f = s.field? f := by
  simp [field?]

theorem enqueueAll_grows : Grows s (s.enqueueAll names) (· ∈ names) := by
  induction names generalizing s with
  | nil => exact Grows.refl.congr (by simp)
  | cons dep rest ih =>
    exact (enqueue_grows.trans (ih (s := s.enqueue dep))).congr (by simp)

@[simp] theorem forms_enqueueAll : (s.enqueueAll names).forms = s.forms := by
  induction names generalizing s with
  | nil => rfl
  | cons dep rest ih => exact ih.trans forms_enqueue

@[simp] theorem inputs_enqueueAll : (s.enqueueAll names).inputs = s.inputs := by
  induction names generalizing s with
  | nil => rfl
  | cons dep rest ih => exact ih.trans inputs_enqueue

@[simp] theorem inputSpecs_enqueueAll : (s.enqueueAll names).inputSpecs = s.inputSpecs := by
  induction names generalizing s with
  | nil => rfl
  | cons dep rest ih => exact ih.trans inputSpecs_enqueue

@[simp] theorem fields_enqueueAll : (s.enqueueAll names).fields = s.fields := by
  induction names generalizing s with
  | nil => rfl
  | cons dep rest ih => exact ih.trans fields_enqueue

/-- To know a form puts nothing on the work list. -/
theorem register_grows : Grows s (s.register name form) fun _ => False := by
  constructor <;> simp [register, InputStore.addSpecs]

theorem takeUp_grows (s : Solver) (name : FormName) (form : Form) :
    Grows s (s.takeUp name form) (· ∈ form.requiredAs name) :=
  (register_grows.trans enqueueAll_grows).congr (by simp)

@[simp] theorem forms_takeUp : (s.takeUp name form).forms = s.forms.insert name.text form := by
  simp [takeUp, register]

@[simp] theorem inputs_takeUp :
    (s.takeUp name form).inputs = s.inputs.addSpecs (form.inputsAs name) := by
  simp [takeUp, register]

@[simp] theorem inputSpecs_takeUp :
    (s.takeUp name form).inputSpecs = s.inputSpecs.insertMany (form.inputsAs name) := by
  simp [takeUp, register]

@[simp] theorem fields_takeUp : (s.takeUp name form).fields =
    (form.entriesAs name).foldr (fun e fields => fields.insert e.1 e.2) s.fields := by
  simp [takeUp, register]

/-- What comes of asking for a form that the library has. -/
theorem addForm_of_instantiate (hi : s.library.instantiate q = .ok (name, form)) :
    s.addForm q =
      if q ∈ s.forms then .ok s
      else match s.duplicate? name form with
        | some known => .error (.duplicateName known)
        | none => .ok (s.takeUp name form) := by
  simp only [addForm, hi, bind, Except.bind, pure, Except.pure, Library.text_of_instantiate hi,
    Std.ExtTreeMap.contains_iff_mem]
  by_cases hq : q ∈ s.forms
  · simp [hq]
  · simp only [hq, if_false]
    cases s.duplicate? name form <;> rfl

/-- A form that is asked for is one that the library has; a new one is taken up. -/
theorem addForm_eq_ok (h : s.addForm q = .ok t) : ∃ name form,
    s.library.instantiate q = .ok (name, form) ∧
      (q ∈ s.forms ∧ t = s ∨ q ∉ s.forms ∧ t = s.takeUp name form) := by
  cases hi : s.library.instantiate q with
  | error e => simp [addForm, hi, bind, Except.bind] at h
  | ok p =>
    obtain ⟨name, form⟩ := p
    refine ⟨name, form, rfl, ?_⟩
    rw [addForm_of_instantiate hi] at h
    by_cases hq : q ∈ s.forms
    · rw [if_pos hq] at h
      cases h
      exact .inl ⟨hq, rfl⟩
    · rw [if_neg hq] at h
      split at h <;> cases h
      exact .inr ⟨hq, rfl⟩

/-- A form that cannot be taken up is one that there is not, or one of its names is known. -/
theorem addForm_eq_error {e : TaxError} (h : s.addForm q = .error e) :
    s.library.instantiate q = .error e ∨ ∃ what, e = .duplicateName what := by
  cases hi : s.library.instantiate q with
  | error e' =>
    simp only [addForm, hi, bind, Except.bind, Except.error.injEq] at h
    exact .inl (by rw [h])
  | ok p =>
    rw [addForm_of_instantiate hi] at h
    split at h
    · cases h
    · split at h
      · exact .inr ⟨_, (Except.error.inj h).symm⟩
      · cases h

theorem addForm_grows (h : s.addForm q = .ok t) : ∃ new, Grows s t new := by
  obtain ⟨name, form, -, ⟨-, rfl⟩ | ⟨-, rfl⟩⟩ := addForm_eq_ok h
  · exact ⟨_, .refl⟩
  · exact ⟨_, takeUp_grows _ _ _⟩

/-- How a field that is needed comes to be solved. -/
inductive Discovers (s : Solver) (dep : String) : Solver → Prop
  | attempted (ha : dep ∈ s.attempted) : Discovers s dep s
  | known (ha : dep ∉ s.attempted) (hf : dep ∈ s.fields) : Discovers s dep (s.enqueue dep)
  | takenUp {q base : String} {name : FormName} {form : Form} (ha : dep ∉ s.attempted)
      (hs : Name.split dep = some (q, base)) (hq : q ∉ s.forms)
      (hi : s.library.instantiate q = .ok (name, form))
      (hf : dep ∈ (s.takeUp name form).fields) :
      Discovers s dep ((s.takeUp name form).enqueue dep)

/-- What is left behind where a field that is needed cannot be solved. -/
inductive Misses (s : Solver) : Solver → Prop
  | unknown : Misses s s
  | takenUp {q : String} {name : FormName} {form : Form} (hq : q ∉ s.forms)
      (hi : s.library.instantiate q = .ok (name, form)) : Misses s (s.takeUp name form)

theorem discover_spec (s : Solver) (dep reader : String) : match s.discover dep reader with
    | .ok t => Discovers s dep t
    | .error (_, t) => Misses s t := by
  unfold discover
  by_cases ha : dep ∈ s.attempted
  · simpa [ha] using Discovers.attempted ha
  simp only [Std.ExtTreeSet.contains_iff_mem, ha, if_false]
  cases hs : Name.split dep with
  | none => exact .unknown
  | some p =>
    obtain ⟨q, base⟩ := p
    by_cases hq : q ∈ s.forms
    · simp only [Std.ExtTreeMap.contains_iff_mem, hq, if_true]
      by_cases hf : dep ∈ s.fields
      · simpa only [Std.ExtTreeMap.contains_iff_mem, hf, if_true] using Discovers.known ha hf
      · simpa only [Std.ExtTreeMap.contains_iff_mem, hf, if_false] using Misses.unknown
    simp only [Std.ExtTreeMap.contains_iff_mem, hq, if_false]
    cases hadd : s.addForm q with
    | error e => exact .unknown
    | ok t =>
      obtain ⟨name, form, hi, ⟨hq', -⟩ | ⟨-, rfl⟩⟩ := addForm_eq_ok hadd
      · exact absurd hq' hq
      by_cases hf : dep ∈ (s.takeUp name form).fields
      · simpa only [Std.ExtTreeMap.contains_iff_mem, hf, if_true] using
          Discovers.takenUp ha hs hq hi hf
      · simpa only [Std.ExtTreeMap.contains_iff_mem, hf, if_false] using Misses.takenUp hq hi

theorem misses_of_discover {e : TaxError} (h : s.discover dep reader = .error (e, t)) :
    Misses s t := by
  have hspec := discover_spec s dep reader
  rwa [h] at hspec

/-- Why a field that is needed cannot be solved. -/
theorem discover_eq_error {e : TaxError} (h : s.discover dep reader = .error (e, t)) :
    Name.split dep = none ∧ e = .invalidName dep (.unscoped reader) ∨
    e = .unknownField dep reader ∨
    ∃ q base, Name.split dep = some (q, base) ∧ s.addForm q = .error e := by
  unfold discover at h
  split at h
  · cases h
  · split at h
    · rename_i hs
      cases h
      exact .inl ⟨hs, rfl⟩
    · rename_i q base hs
      split at h
      · rename_i e' ha
        cases h
        split at ha
        · cases ha
        · exact .inr (.inr ⟨q, base, hs, ha⟩)
      · split at h
        · cases h
        · cases h
          exact .inr (.inl rfl)

/-- Whether an error is about what a name stands for. -/
def aboutNames : TaxError → Bool
  | .unknownForm _ | .invalidInstance .. | .duplicateName _ | .unknownField .. | .invalidName .. =>
    true
  | _ => false

theorem aboutNames_of_addForm {e : TaxError} (h : s.addForm q = .error e) : aboutNames e := by
  rcases addForm_eq_error h with hi | ⟨what, rfl⟩
  · rcases Library.instantiate_eq_error hi with
      ⟨n, fault, -, rfl⟩ | ⟨name, -, ⟨-, rfl⟩ | ⟨form, fault, -, -, rfl⟩⟩ <;> rfl
  · rfl

theorem aboutNames_of_give {store : InputStore} {n raw : String} {e : TaxError}
    (h : store.give n raw = .error e) : aboutNames e := by
  unfold InputStore.give at h
  split at h
  · cases h
    rfl
  · split at h <;> cases h

/-- To find out about a field reports nothing else. -/
theorem aboutNames_of_discover {e : TaxError} (h : s.discover dep reader = .error (e, t)) :
    aboutNames e := by
  rcases discover_eq_error h with ⟨-, rfl⟩ | rfl | ⟨q, base, -, ha⟩
  · rfl
  · rfl
  · exact aboutNames_of_addForm ha

/-- Where a field that is needed cannot be solved, its form is taken up or nothing is. -/
theorem eq_or_takeUp_of_discover {e : TaxError} (h : s.discover dep reader = .error (e, t)) :
    t = s ∨ ∃ q base name form, Name.split dep = some (q, base) ∧
      s.library.instantiate q = .ok (name, form) ∧ t = s.takeUp name form := by
  unfold discover at h
  split at h
  · cases h
  · split at h
    · cases h
      exact .inl rfl
    · rename_i q base hs
      split at h
      · cases h
        exact .inl rfl
      · rename_i u hu
        split at h
        · cases h
        · cases h
          split at hu
          · cases hu
            exact .inl rfl
          · obtain ⟨name, form, hi, ⟨-, rfl⟩ | ⟨-, rfl⟩⟩ := addForm_eq_ok hu
            · exact .inl rfl
            · exact .inr ⟨q, base, name, form, hs, hi, rfl⟩

theorem Discovers.grows (h : Discovers s dep t) : ∃ new, Grows s t new ∧ dep ∈ t.attempted := by
  cases h with
  | attempted ha => exact ⟨_, .refl, ha⟩
  | known ha hf => exact ⟨_, enqueue_grows, mem_attempted_enqueue.mpr (.inr rfl)⟩
  | takenUp ha hs hq hi hf =>
    exact ⟨_, (takeUp_grows _ _ _).trans enqueue_grows, mem_attempted_enqueue.mpr (.inr rfl)⟩

/-- A field within a set that holds the required fields of its form brings nothing else. -/
theorem Discovers.within {D : String → Prop} (h : Discovers s dep t)
    (hs : ∀ f ∈ s.attempted, D f) (hd : D dep)
    (hreq : ∀ q base name form, Name.split dep = some (q, base) →
      s.library.instantiate q = .ok (name, form) → ∀ f ∈ form.requiredAs name, D f) :
    ∀ f ∈ t.attempted, D f := by
  intro f hf
  cases h with
  | attempted ha => exact hs f hf
  | known ha hk =>
    rcases mem_attempted_enqueue.mp hf with hf | rfl
    · exact hs f hf
    · exact hd
  | takenUp ha hsplit hq hi hk =>
    rcases mem_attempted_enqueue.mp hf with hf | rfl
    · rcases ((takeUp_grows _ _ _).attempted f).mp hf with hf | hf
      · exact hs f hf
      · exact hreq _ _ _ _ hsplit hi f hf
    · exact hd

theorem Misses.grows (h : Misses s t) : ∃ new, Grows s t new := by
  cases h with
  | unknown => exact ⟨_, .refl⟩
  | takenUp hq hi => exact ⟨_, takeUp_grows _ _ _⟩

end TaxReturn.Solver
