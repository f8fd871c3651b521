import TaxReturn.Proofs.Solver.Traces
import TaxReturn.Proofs.Stability

/-! A solve that nobody answers. What stands in its places is what evaluations come to, and its
forms are those that were asked for and those whose fields were needed. -/
namespace TaxReturn

/-- What is known of inputs beforehand is what the forms of a library say about them. Nothing is
known of inputs that are read, and a solver adds what its forms say. -/
def InputStore.AgreesWith (inputs : InputStore) (library : Library) : Prop :=
  ∀ n spec spec', inputs.spec? n = some spec → library.inputSpec? n = some spec' → spec = spec'

theorem InputStore.agreesWith_ofSections {given : Sections} {library : Library} :
    (InputStore.ofSections given).AgreesWith library := by
  intro n spec spec' h
  simp [InputStore.ofSections, InputStore.spec?] at h

namespace Solver

variable {s t : Solver} {p p' : Point} {f d q name : String} {library : Library}
  {inputs : InputStore} {known : Name.Table InputSpec} {requests : List String}
  {calls : List (Call × Reply)} {new : String → Prop}

theorem Registered.evaluates {outcome : Except Signal Value} (h : Registered library known s)
    (hy : s.Yields f outcome) : library.Evaluates s.inputs s.values f outcome := by
  obtain ⟨q, field, hf, he⟩ := hy
  obtain ⟨base, form, hs, hq, hb⟩ := h.field?_eq_some_iff.mp hf
  obtain ⟨name, hi⟩ := h.instantiated _ _ hq
  exact ⟨q, base, name, form, field, hs, hi, hb, he⟩

/-- The form of a field that was ever to be solved is taken up. -/
theorem Registered.mem_forms {base : String} (h : Registered library known s)
    (hf : f ∈ s.attempted) (hs : Name.split f = some (q, base)) : q ∈ s.forms := by
  obtain ⟨e, he⟩ := Name.mem_iff_getElem?.mp (h.attempted f hf)
  obtain ⟨⟨q', base', hs', hq⟩, -⟩ := (h.entry f e).mp he
  rw [hs] at hs'
  cases hs'
  exact hq

/-- The forms that are taken up are known by their names. -/
theorem Registered.forms_eq {known' : Name.Table InputSpec} (hs : Registered library known s)
    (ht : Registered library known' t) (h : ∀ q, q ∈ t.forms ↔ q ∈ s.forms) :
    t.forms = s.forms := by
  apply Std.ExtTreeMap.ext_getElem?
  intro q
  apply Option.ext
  intro form
  rw [ht.getElem?_forms, hs.getElem?_forms, h]

/-- So are their fields. -/
theorem Registered.fields_eq {known' : Name.Table InputSpec} (hs : Registered library known s)
    (ht : Registered library known' t) (h : ∀ q, q ∈ t.forms ↔ q ∈ s.forms) :
    t.fields = s.fields := by
  apply Std.ExtTreeMap.ext_getElem?
  intro n
  apply Option.ext
  intro e
  simp only [ht.entry, hs.entry, Takes, h]

/-- The required fields of a form that is taken up were to be solved. -/
theorem Registered.attempted_of_required {name : FormName} {form : Form}
    (h : Registered library known s) (hi : library.instantiate q = .ok (name, form))
    (hq : q ∈ s.forms) (hf : f ∈ form.requiredAs name) : f ∈ s.attempted :=
  h.required q name form (h.getElem?_forms.mpr ⟨hq, name, hi⟩) hi f hf

/-- A field that was to be solved is evaluated under its own name. -/
theorem Registered.yields {outcome : Except Signal Value} (h : Registered library known s)
    (hf : f ∈ s.attempted) (he : library.Evaluates s.inputs s.values f outcome) :
    s.Yields f outcome := by
  obtain ⟨⟨q, field⟩, hfield⟩ := Option.isSome_iff_exists.mp (h.field hf)
  have hy : s.Yields f (field.evaluate f ⟨⟨q, s.values⟩, s.inputs⟩) := ⟨q, field, hfield, rfl⟩
  exact (h.evaluates hy).unique he ▸ hy

/-- With more forms taken up, the same inputs are read in the same way, and more of them. -/
theorem Registered.within (hs : Registered library inputs.specs s)
    (ht : Registered library inputs.specs t) (ha : inputs.AgreesWith library)
    (hg : t.inputs.given = s.inputs.given) (hf : ∀ q ∈ s.forms, q ∈ t.forms) :
    s.inputs.Within t.inputs := by
  refine ⟨hg, fun n spec hn => ?_⟩
  simp only [InputStore.spec?, hs.spec, ht.spec] at hn ⊢
  rcases Option.or_eq_some_iff.mp hn with hn | ⟨hn, hk⟩
  · obtain ⟨⟨q, base, hsplit, hq⟩, hl⟩ := (hs.inputSpec n spec).mp hn
    rw [(ht.inputSpec n spec).mpr ⟨⟨q, base, hsplit, hf q hq⟩, hl⟩]
    rfl
  · cases hi : t.inputSpecs[n]? with
    | none => simpa using hk
    | some spec' => simp [ha n spec spec' hk ((ht.inputSpec n spec').mp hi).2]

theorem Registered.agreesWith (h : Registered library inputs.specs s)
    (ha : inputs.AgreesWith library) : s.inputs.AgreesWith library := by
  intro n spec spec' hn hl
  simp only [InputStore.spec?, h.spec] at hn
  rcases Option.or_eq_some_iff.mp hn with hn | ⟨-, hk⟩
  · have hl' := ((h.inputSpec n spec).mp hn).2
    rw [hl] at hl'
    exact (Option.some.inj hl').symm
  · exact ha n spec spec' hk hl

/-- What stands in the places of a solver is what evaluations come to, as far as nothing has
happened since that a field waits for. -/
structure Recorded (library : Library) (s : Solver) : Prop where
  committed : ∀ f v, s.values.get? f = some v → library.Evaluates s.inputs s.values f (.ok v)
  waiting : ∀ f d, f ∈ s.fieldWaits.waiters d → d ∈ s.attempted ∧
    (d ∈ s.fieldWaits.met ∨ library.Evaluates s.inputs s.values f (.error (.unmet d)))
  lacking : ∀ f i, f ∈ s.inputWaits.waiters i →
    library.Evaluates s.inputs s.values f (.error (.missingInput i))
  left : ∀ f ∈ s.unimplemented, ∃ d,
    library.Evaluates s.inputs s.values f (.error (.notImplemented d))

/-- An evaluation came to an outcome over no more than is known and committed now. -/
def Came (library : Library) (s : Solver) (f : String) (outcome : Except Signal Value) : Prop :=
  ∃ inputs values, library.Evaluates inputs values f outcome ∧ inputs.Within s.inputs ∧
    values ≤ s.values

theorem Came.mono {outcome : Except Signal Value} (h : Came library s f outcome)
    (hin : s.inputs.Within t.inputs) (hv : s.values ≤ t.values) : Came library t f outcome := by
  obtain ⟨inputs, values, he, hi, hval⟩ := h
  exact ⟨inputs, values, he, hi.trans hin, ValueStore.le_trans hval hv⟩

/-- A form is taken up because it was asked for, or because one of its fields was to be solved. -/
def Reasoned (requests : List String) (s : Solver) : Prop :=
  ∀ q ∈ s.forms, q ∈ requests ∨ ∃ f ∈ s.attempted, ∃ base, Name.split f = some (q, base)

/-- What holds throughout a session in which nobody is asked and no call fails. -/
structure Unprompted (library : Library) (inputs : InputStore) (requests : List String)
    (p : Point) : Prop where
  registered : Registered library inputs.specs p.solver
  balanced : Balanced p
  traces : Traces (Came library p.solver) (fun _ => True) p.solver
  canAsk : p.solver.canAsk = false
  given : p.solver.inputs.given = inputs.given
  reasoned : Reasoned requests p.solver

theorem mem_forms_takeUp {q' : String} {name : FormName} {form : Form}
    (hi : s.library.instantiate q = .ok (name, form)) :
    q' ∈ (s.takeUp name form).forms ↔ q' = q ∨ q' ∈ s.forms := by
  rw [forms_takeUp, Std.ExtTreeMap.mem_insert, Std.LawfulEqCmp.compare_eq_iff_eq,
    Library.text_of_instantiate hi, eq_comm]

theorem Discovers.mem_forms (hd : Discovers s d t) : q ∈ t.forms ↔
    q ∈ s.forms ∨ ∃ base, Name.split d = some (q, base) ∧ q ∈ t.forms := by
  cases hd with
  | attempted ha => tauto
  | known ha hf =>
    rw [forms_enqueue]
    tauto
  | takenUp ha hs hq hi hf =>
    rw [forms_enqueue, mem_forms_takeUp hi]
    constructor
    · rintro (rfl | hm)
      · exact .inr ⟨_, hs, .inl rfl⟩
      · exact .inl hm
    · rintro (hm | ⟨base, -, hm⟩)
      · exact .inr hm
      · exact hm

theorem mem_forms_addForm {q' : String} (ha : s.addForm q = .ok t) (hq : q' ∈ s.forms) :
    q' ∈ t.forms := by
  obtain ⟨name, form, hi, ⟨-, rfl⟩ | ⟨-, rfl⟩⟩ := addForm_eq_ok ha
  · exact hq
  · exact (mem_forms_takeUp hi).mpr (.inr hq)

theorem mem_forms_step (hs : Step p p') (hq : q ∈ p.solver.forms) : q ∈ p'.solver.forms := by
  rcases step_registry hs with hsame | ⟨s, dep, t, hsame, hd, hsame'⟩
  · rw [hsame.forms]
    exact hq
  · rw [hsame'.forms, hd.mem_forms, hsame.forms]
    exact .inl hq

theorem reasoned_step (h : Reasoned requests p.solver) (hs : Step p p') :
    Reasoned requests p'.solver := by
  intro q hq
  rcases step_registry hs with hsame | ⟨s, dep, t, hsame, hd, hsame'⟩
  · rw [hsame.forms] at hq
    rw [hsame.attempted]
    exact h q hq
  · obtain ⟨new, hg, hdep⟩ := hd.grows
    rw [hsame'.forms, hd.mem_forms, hsame.forms] at hq
    rw [hsame'.attempted]
    rcases hq with hq | ⟨base, hb, -⟩
    · refine (h q hq).imp_right fun ⟨f, hf, hb⟩ => ⟨f, ?_, hb⟩
      rw [hg.attempted, hsame.attempted]
      exact .inl hf
    · exact .inr ⟨dep, hdep, base, hb⟩

theorem reasoned_addForm (h : Reasoned requests s) (ha : s.addForm q = .ok t)
    (hq : q ∈ requests) : Reasoned requests t := by
  obtain ⟨name, form, hi, ⟨-, rfl⟩ | ⟨-, rfl⟩⟩ := addForm_eq_ok ha
  · exact h
  · have hg := takeUp_grows s name form
    intro q' hq'
    rcases (mem_forms_takeUp hi).mp hq' with rfl | hm
    · exact .inl hq
    · exact (h q' hm).imp_right fun ⟨f, hf, hb⟩ => ⟨f, (hg.attempted f).mpr (.inl hf), hb⟩

/-- Nobody is asked. -/
theorem Unprompted.not_canAsk (h : Unprompted library inputs requests p) : ¬ p.solver.canAsk := by
  simp [h.canAsk]

/-- Nothing is given, and nobody is asked, where nobody can be asked. -/
theorem given_step (h : Unprompted library inputs requests p) (hs : Step p p') :
    p'.solver.canAsk = false ∧ p'.solver.inputs.given = inputs.given := by
  cases hs with
  | wait hv hy hd hp =>
    obtain ⟨new, hg, -⟩ := hd.grows
    exact ⟨hg.canAsk.trans h.canAsk, hg.given.trans h.given⟩
  | refuse hc => exact absurd hc h.not_canAsk
  | accept hc => exact absurd hc h.not_canAsk
  | _ => exact ⟨h.canAsk, h.given⟩

/-- No change takes back what was committed. -/
theorem values_step (hs : Step p p') : p.solver.values ≤ p'.solver.values := by
  cases hs with
  | commit hv hy => exact ValueStore.le_commit hv
  | wait hv hy hd hp =>
    obtain ⟨new, hg, -⟩ := hd.grows
    exact hg.values ▸ ValueStore.le_refl _
  | _ => exact ValueStore.le_refl _

/-- What is there after a change was there before, or an evaluation came to it. -/
theorem get?_step {v : Value} (hs : Step p p') (hv : p'.solver.values.get? f = some v) :
    p.solver.values.get? f = some v ∨ p.current = some f ∧ p.solver.Yields f (.ok v) := by
  cases hs with
  | @commit s hand name value hn hy =>
    rw [ValueStore.get?_commit] at hv
    split at hv
    · rename_i he
      have hnone : s.values.get? name = none := by simpa [ValueStore.has] using hn
      rw [hnone] at hv
      cases hv
      exact .inr ⟨by rw [he], he ▸ hy⟩
    · exact .inl hv
  | wait hn hy hd hp =>
    obtain ⟨new, hg, -⟩ := hd.grows
    rw [hg.values] at hv
    exact .inl hv
  | _ => exact .inl hv

/-- No change takes back what was known. -/
theorem within_step (hagree : inputs.AgreesWith library) (h : Unprompted library inputs requests p)
    (hs : Step p p') : p.solver.inputs.Within p'.solver.inputs :=
  h.registered.within (registered_step h.registered hs) hagree
    ((given_step h hs).2.trans h.given.symm) fun _ hq => mem_forms_step hs hq

theorem Unprompted.finish {lost : List String}
    (h : Unprompted library inputs requests ⟨s, lost, none⟩) :
    Unprompted library inputs requests ⟨s.finish, lost, none⟩ where
  registered := h.registered.same ⟨rfl, rfl, rfl, rfl, rfl, rfl⟩
  balanced := ⟨h.balanced.places, h.balanced.waits⟩
  traces := h.traces.finish
  canAsk := h.canAsk
  given := h.given
  reasoned := h.reasoned

theorem unprompted_initial : Unprompted library inputs requests
    ⟨initial library inputs false, [], none⟩ where
  registered := registered_initial
  balanced := balanced_initial
  traces := .initial
  canAsk := rfl
  given := rfl
  reasoned := by simp [Reasoned, initial]

/-- What came of the evaluations comes of them again, as far as nothing that they stopped at has
been committed since. -/
theorem Unprompted.recorded (hstable : library.Stable)
    (h : Unprompted library inputs requests p) : Recorded library p.solver where
  committed f v hv := by
    obtain ⟨inputs, values, he, hin, hle⟩ := h.traces.committed f v hv
    exact he.value hstable hin hle
  waiting f d hw := by
    obtain ⟨hd, ⟨inputs, values, he, hin, hle⟩, hm⟩ := h.traces.waiting f d hw
    exact ⟨hd, hm.imp_right (he.unmet hstable hin hle)⟩
  lacking f i hw := by
    obtain ⟨⟨inputs, values, he, hin, hle⟩, -⟩ := h.traces.lacking f i hw
    exact he.missingInput hstable hin hle
  left f hf := by
    obtain ⟨m, inputs, values, he, hin, hle⟩ := h.traces.left f hf
    exact ⟨m, he.notImplemented hstable hin hle⟩

theorem unprompted_step (hstable : library.Stable) (hagree : inputs.AgreesWith library)
    (h : Unprompted library inputs requests p) (hs : Step p p') :
    Unprompted library inputs requests p' where
  registered := registered_step h.registered hs
  balanced := balanced_step h.balanced hs
  traces := by
    have hin := within_step hagree h hs
    have htr : Traces (Came library p.solver) (fun _ => True) p'.solver :=
      h.traces.step h.balanced hs
        (fun f _ _ hy => ⟨_, _, h.registered.evaluates hy, .refl _, ValueStore.le_refl _⟩)
        (fun f d hy => (h.registered.evaluates hy).absent hstable) (fun _ _ _ => trivial)
    exact htr.mono (fun f _ hc => hc.mono hin (values_step hs)) fun _ _ => .inr trivial
  canAsk := (given_step h hs).1
  given := (given_step h hs).2
  reasoned := reasoned_step h.reasoned hs

theorem unprompted_addForm {lost : List String} (hagree : inputs.AgreesWith library)
    (h : Unprompted library inputs requests ⟨s, lost, none⟩) (ha : s.addForm q = .ok t)
    (hq : q ∈ requests) : Unprompted library inputs requests ⟨t, lost, none⟩ := by
  have hreg := registered_addForm h.registered ha
  have hbal := balanced_addForm h.balanced ha
  have hreason := reasoned_addForm h.reasoned ha hq
  obtain ⟨name, form, hi, ⟨-, rfl⟩ | ⟨-, rfl⟩⟩ := addForm_eq_ok ha
  · exact h
  · have hg := takeUp_grows s name form
    have hforms : ∀ q ∈ s.forms, q ∈ (s.takeUp name form).forms :=
      fun q hq => (mem_forms_takeUp hi).mpr (.inr hq)
    have hle : s.values ≤ (s.takeUp name form).values := hg.values ▸ ValueStore.le_refl _
    have htr : Traces (Came library s) (fun _ => True) (s.takeUp name form) := h.traces.grows hg
    refine ⟨hreg, hbal, htr.mono (fun f _ hc => hc.mono ?_ hle) fun _ _ => .inr trivial,
      hg.canAsk.trans h.canAsk, hg.given.trans h.given, hreason⟩
    exact h.registered.within hreg hagree hg.given hforms

theorem Session.unprompted (hstable : library.Stable) (hagree : inputs.AgreesWith library)
    (h : Session (initial library inputs false) calls s)
    (hok : ErrorFree calls) : Unprompted library inputs (requested calls) ⟨s, [], none⟩ := by
  obtain ⟨lost, hs, hlost⟩ := h.induction (I := Unprompted library inputs (requested calls))
    unprompted_initial (fun _ _ _ _ hq hs ha => unprompted_addForm hagree hs ha hq)
    (fun _ _ hp hs => unprompted_step hstable hagree hp hs)
    (fun _ _ hs _ => hs.finish) (.inl hok)
  exact hlost hok ▸ hs

theorem Session.mem_forms {start : Solver} (h : Session start calls s) (hok : ErrorFree calls)
    (hq : q ∈ requested calls) : q ∈ s.forms := by
  induction h with
  | start => simp [requested] at hq
  | @call calls s t call reply h hr ih =>
    obtain ⟨hcalls, hlast⟩ := errorFree_concat.mp hok
    rw [requested_concat, List.mem_append] at hq
    cases hr with
    | refused ha => exact absurd rfl (hlast _)
    | failed hr => exact absurd rfl (hlast _)
    | @added q' t ha =>
      rcases hq with hq | hq
      · exact mem_forms_addForm ha (ih hcalls hq)
      · obtain rfl : q = q' := by simpa [requested] using hq
        obtain ⟨name, form, hi, ⟨hm, rfl⟩ | ⟨-, rfl⟩⟩ := addForm_eq_ok ha
        · exact hm
        · exact (mem_forms_takeUp hi).mpr (.inl rfl)
    | returned hr =>
      have hqs : q ∈ s.forms := by
        rcases hq with hq | hq
        · exact ih hcalls hq
        · simp [requested] at hq
      cases from_round s [] (leads_of_solve_finished hr) with
      | @finished u hs hw =>
        have hu : q ∈ u.forms := hs.preserves (fun _ _ hq hs => mem_forms_step hs hq) hqs
        exact hu

/-- What became of a field that was to be solved, when nothing is left to do. -/
inductive Outcome (s : Solver) (f : String) : Except Signal Value → Prop
  | committed {v : Value} (hv : s.values.get? f = some v) : Outcome s f (.ok v)
  | waiting {d : String} (hw : f ∈ s.fieldWaits.waiters d) : Outcome s f (.error (.unmet d))
  | lacking {i : String} (hw : f ∈ s.inputWaits.waiters i) : Outcome s f (.error (.missingInput i))
  | left {d : Option String} (hu : f ∈ s.unimplemented) : Outcome s f (.error (.notImplemented d))

/-- The place of a field is what its evaluation comes to over everything that was committed. -/
theorem Unprompted.exists_outcome (hstable : library.Stable)
    (h : Unprompted library inputs requests ⟨s, [], none⟩) (hw : s.hasWork = false)
    (ha : f ∈ s.attempted) :
    ∃ outcome, Outcome s f outcome ∧ library.Evaluates s.inputs s.values f outcome := by
  have hrec := h.recorded hstable
  rcases h.balanced.settled hw ha with hv | ⟨d, hd⟩ | ⟨i, hi⟩ | hu
  · obtain ⟨v, hv⟩ := Option.isSome_iff_exists.mp hv
    exact ⟨_, .committed hv, hrec.committed f v hv⟩
  · obtain ⟨-, hm⟩ := hrec.waiting f d hd
    rw [(hasWork_eq_false hw).2.1] at hm
    exact ⟨_, .waiting hd, hm.resolve_left (by simp)⟩
  · exact ⟨_, .lacking hi, hrec.lacking f i hi⟩
  · obtain ⟨d, hd⟩ := hrec.left f hu
    exact ⟨_, .left hu, hd⟩

end Solver
end TaxReturn
