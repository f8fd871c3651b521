import TaxReturn.Proofs.Solver.Cycles
import TaxReturn.Proofs.Solver.Exactness
import TaxReturn.Proofs.Year2023.Demands

/-! What has been evaluated stands. Answers open no section of a statement, because a statement is
read only where it has its section already; so what is committed is what its evaluation comes to
ever after, but for the total over the forms 8889. -/
namespace TaxReturn.Year2023

open Solver

variable {s t : Solver} {p p' : Point} {f d q base name : String} {fixed : List String}
  {outcome : Except Signal Value} {calls : List (Call × Reply)} {inputs : InputStore}
  {known : Name.Table InputSpec} {lost : List String}

/-- The section of a field is there, as far as its form is one of certain forms with several
instances. -/
def Sectioned (fixed : List String) (inputs : InputStore) (f : String) : Prop :=
  ∀ q base, Name.split f = some (q, base) → ∀ form ∈ fixed, InputStore.tagOf? form q ≠ none →
    q ∈ inputs.given.names

/-- An evaluation of a field came to an outcome when no more was given and committed than is now. -/
def Traced (fixed : List String) (s : Solver) (f : String) (outcome : Except Signal Value) :
    Prop :=
  ∃ inputs values, library.Evaluates inputs values f outcome ∧
    (∀ q base, Name.split f = some (q, base) → inputs.Knows library q) ∧
    inputs.Carries fixed s.inputs ∧ values ≤ s.values

theorem Traced.mono (h : Traced fixed s f outcome) (hc : s.inputs.Carries fixed t.inputs)
    (hv : s.values ≤ t.values) : Traced fixed t f outcome := by
  obtain ⟨inputs, values, he, hk, hin, hval⟩ := h
  exact ⟨inputs, values, he, hk, hin.trans hc, ValueStore.le_trans hval hv⟩

theorem Sectioned.of_given (h : Sectioned fixed inputs f) {inputs' : InputStore}
    (hg : ∀ q ∈ inputs.given.names, q ∈ inputs'.given.names) : Sectioned fixed inputs' f :=
  fun q base hs form hf ht => hg q (h q base hs form hf ht)

/-- Fields of one form instance have one section. -/
theorem Sectioned.of_split (h : Sectioned fixed inputs f) (hf : Name.split f = some (q, base))
    {base' : String} (hd : Name.split d = some (q, base')) : Sectioned fixed inputs d := by
  intro q' base'' hs form hform ht
  rw [hd] at hs
  cases hs
  exact h q base hf form hform ht

/-- A field that is needed has its section. -/
theorem Sectioned.of_unmet {values : ValueStore} (h : Sectioned fixed inputs f)
    (he : library.Evaluates inputs values f (.error (.unmet d))) : Sectioned fixed inputs d := by
  obtain ⟨q, base, -, -, -, hf, -⟩ := id he
  intro q' base' hs form hform ht
  rcases section_of_unmet he hf hs with rfl | hnone | hmem
  · exact h.of_split hf hs q' base' hs form hform ht
  · exact absurd (hnone form) ht
  · exact hmem

/-- Nothing is to be solved for a statement by itself. -/
theorem required_of_statement {name : FormName} {form : Form}
    (hi : library.instantiate q = .ok (name, form)) (hs : name.name ∈ statements) :
    form.required = [] := by
  obtain ⟨-, hf, -⟩ := Library.instantiate_eq_ok hi
  have hmem := Library.mem_forms_of_instantiate hi
  have hname := name_of_form? hf
  rw [← hname] at hs
  have hall : ∀ form ∈ library.forms, form.name ∈ statements → form.required = [] := by
    simp only [library, List.forall_mem_cons]
    refine ⟨fun h => absurd h (by decide), fun h => absurd h (by decide),
      fun h => absurd h (by decide), fun h => absurd h (by decide), fun _ => rfl, fun _ => rfl,
      fun _ => rfl, by simp⟩
  exact hall form hmem hs

/-- An input is missing until it is given, and then it is met. -/
theorem raw?_step {i : String} (hs : Step p p') (hi : p.solver.inputs.raw? i = none) :
    i ∈ p'.solver.inputWaits.met ∨ p'.solver.inputs.raw? i = none := by
  cases hs with
  | @wait s t hand name dep hv hy hd hp =>
    obtain ⟨new, hg, -⟩ := hd.grows
    have hgiven : t.inputs.given = s.inputs.given := hg.given
    right
    simpa only [InputStore.raw?, hgiven] using hi
  | @accept s hand input spec value raw new inputs hc hr ha hw hs hp hg =>
    rw [Waitlist.met_meet, List.mem_append]
    by_cases he : i = input
    · exact .inl (.inr (by simp [he]))
    · right
      simpa only [InputStore.raw?_give hg, he, false_and, if_false] using hi
  | _ => exact .inr hi

/-- What fails changes only what is asked and evaluated, and more comes to be known. -/
theorem exists_grows_of_fails {e : TaxError} (hf : Fails p e t) :
    (∀ q ∈ p.solver.forms, q ∈ t.forms) ∧
      ∃ evaluated asked new, Grows { p.solver with evaluated, asked } t new := by
  cases hf with
  | missed hv hy hd =>
    have hm := misses_of_discover hd
    obtain ⟨new, hg⟩ := hm.grows
    exact ⟨fun q hq => hm.mem_forms hq, _, _, new, hg⟩
  | cyclic hv hy hd hp =>
    obtain ⟨new, hg, -⟩ := hd.grows
    exact ⟨fun q hq => hd.mem_forms.mpr (.inl hq), _, _, new, hg⟩
  | unknown | fatal => exact ⟨fun q hq => hq, _, _, _, .refl⟩
  | unspecified | unreadable | ungiven => exact ⟨fun q hq => hq, _, _, _, .refl⟩

/-- What evaluations came to, with the sections of the fields that are to be solved. -/
structure Lasting (known : Name.Table InputSpec) (fixed : List String) (p : Point) : Prop where
  registered : Registered library known p.solver
  balanced : Balanced p
  traces : Traces (Traced fixed p.solver) (fun i => p.solver.inputs.raw? i = none) p.solver
  sectioned : ∀ f ∈ p.solver.attempted, Sectioned fixed p.solver.inputs f

namespace Lasting

/-- An evaluation leaves a trace. -/
theorem traced (h : Lasting known fixed p) (hn : name ∈ p.solver.attempted)
    (hy : p.solver.Yields name outcome) : Traced fixed p.solver name outcome :=
  ⟨p.solver.inputs, p.solver.values, h.registered.evaluates hy,
    fun _ _ hs => h.registered.knows (h.registered.mem_forms hn hs), .refl, ValueStore.le_refl _⟩

/-- No change takes back what was given, and none changes the instances. -/
theorem carries_step (h : Lasting known fixed p) (hs : Step p p') :
    p.solver.inputs.Carries fixed p'.solver.inputs := by
  cases hs with
  | wait hv hy hd hp =>
    obtain ⟨new, hg, -⟩ := hd.grows
    exact InputStore.carries_of_given hg.given
  | @accept s hand input spec value raw new inputs hc hr ha hw hs hp hg =>
    obtain ⟨f, hf⟩ := List.exists_mem_of_ne_nil _ hw
    have hatt : f ∈ s.attempted := h.balanced.attempted_of_inputWaits hf
    obtain ⟨⟨inputs, values, he, -⟩, -⟩ := h.traces.lacking f input hf
    obtain ⟨q, base, key, hsf, hsn, -⟩ := split_of_missingInput he
    refine InputStore.carries_give hg hsn fun form hform => ?_
    by_cases ht : InputStore.tagOf? form q = none
    · exact .inr ht
    · exact .inl (h.sectioned f hatt q base hsf form hform ht)
  | _ => exact .refl

theorem traces_step (h : Lasting known fixed p) (hs : Step p p') :
    Traces (Traced fixed p'.solver) (fun i => p'.solver.inputs.raw? i = none) p'.solver := by
  have hcarries := h.carries_step hs
  have htr := h.traces.step h.balanced hs (fun f outcome hf hy => h.traced hf hy)
    (fun f d hy => (h.registered.evaluates hy).absent stable_library) fun f i hy => by
      obtain ⟨-, -, -, -, -, hraw⟩ := split_of_missingInput (h.registered.evaluates hy)
      exact hraw
  exact htr.mono (fun f outcome ht => ht.mono hcarries (values_step hs)) fun i hi =>
    raw?_step hs hi

/-- The fields that come to be solved with a field that is needed have their section. -/
theorem sectioned_discovers (h : Lasting known fixed p) (hn : name ∈ p.solver.attempted)
    (hy : p.solver.Yields name (.error (.unmet d))) (hd : Discovers (p.solver.log name) d t) :
    ∀ f ∈ t.attempted, Sectioned fixed p.solver.inputs f := by
  have hdep : Sectioned fixed p.solver.inputs d :=
    (h.sectioned name hn).of_unmet (h.registered.evaluates hy)
  refine hd.within h.sectioned hdep fun q base name form hsplit hi f hr => ?_
  obtain ⟨base', rfl, -⟩ := Form.exists_of_mem_requiredAs hr
  exact hdep.of_split hsplit (Library.split_of_instantiate hi)

theorem sectioned_step (h : Lasting known fixed p) (hs : Step p p') :
    ∀ f ∈ p'.solver.attempted, Sectioned fixed p'.solver.inputs f := by
  have hnames := (h.carries_step hs).names
  cases hs with
  | @wait s t hand name dep hv hy hd hp =>
    intro f hf
    refine Sectioned.of_given (?_ : Sectioned fixed s.inputs f) hnames
    exact h.sectioned_discovers h.balanced.attempted_current hy hd f hf
  | _ => exact fun f hf => (h.sectioned f hf).of_given hnames

theorem step (h : Lasting known fixed p) (hs : Step p p') : Lasting known fixed p' where
  registered := registered_step h.registered hs
  balanced := balanced_step h.balanced hs
  traces := h.traces_step hs
  sectioned := h.sectioned_step hs

/-- What comes to be known beside what was given leaves the traces as they are. -/
theorem traces_grows {new : String → Prop} {u : Solver}
    (h : Traces (Traced fixed u) (fun i => u.inputs.raw? i = none) s)
    (hin : s.inputs = u.inputs) (hval : s.values = u.values) (hg : Grows s t new) :
    Traces (Traced fixed t) (fun i => t.inputs.raw? i = none) t := by
  have hgiven : t.inputs.given = u.inputs.given := hg.given.trans (hin ▸ rfl)
  have hvalues : t.values = u.values := hg.values.trans hval
  refine (h.grows hg).mono (fun f outcome ht => ?_) fun i hi => .inr ?_
  · exact ht.mono (InputStore.carries_of_given hgiven) (hvalues ▸ ValueStore.le_refl _)
  · simpa only [InputStore.raw?, hgiven] using hi

theorem addForm (h : Lasting known fixed ⟨s, lost, none⟩) (ha : s.addForm q = .ok t)
    (hq : ∀ form ∈ fixed, InputStore.tagOf? form q ≠ none →
      q ∈ s.inputs.given.names ∨ form ∈ statements) : Lasting known fixed ⟨t, lost, none⟩ := by
  have hreg := registered_addForm h.registered ha
  have hbal := balanced_addForm h.balanced ha
  obtain ⟨name, form, hi, ⟨-, rfl⟩ | ⟨-, rfl⟩⟩ := addForm_eq_ok ha
  · exact h
  · have hg := takeUp_grows s name form
    have hgiven : (s.takeUp name form).inputs.given = s.inputs.given := hg.given
    refine ⟨hreg, hbal, traces_grows h.traces rfl rfl hg, fun f hf => ?_⟩
    rcases (hg.attempted f).mp hf with hf | hr
    · exact (h.sectioned f hf).of_given (hgiven ▸ fun q hq => hq)
    · intro q' base hs form' hform ht
      obtain ⟨base', rfl, -⟩ := Form.exists_of_mem_requiredAs hr
      rw [Library.split_of_instantiate hi] at hs
      cases hs
      rw [hgiven]
      rcases hq form' hform ht with hm | hst
      · exact hm
      · obtain ⟨tag, htag⟩ := Option.ne_none_iff_exists'.mp ht
        have hp := (InputStore.tagOf?_eq_some htag).2
        have hi' : library.instantiate q = .ok (name, form) := h.registered.source ▸ hi
        have hp' := (Library.instantiate_eq_ok hi').1
        rw [hp] at hp'
        cases hp'
        simp [Form.requiredAs, required_of_statement hi' hst] at hr

theorem finish (h : Lasting known fixed ⟨s, lost, none⟩) :
    Lasting known fixed ⟨s.finish, lost, none⟩ where
  registered := h.registered.same ⟨rfl, rfl, rfl, rfl, rfl, rfl⟩
  balanced := ⟨h.balanced.places, h.balanced.waits⟩
  traces := h.traces.finish
  sectioned := h.sectioned

theorem initial {canAsk : Bool} :
    Lasting inputs.specs fixed ⟨initial library inputs canAsk, [], none⟩ where
  registered := registered_initial
  balanced := balanced_initial
  traces := .initial
  sectioned := by simp [Solver.initial]

theorem sectioned_misses (h : Lasting known fixed p) (hn : name ∈ p.solver.attempted)
    (hy : p.solver.Yields name (.error (.unmet d))) {e : TaxError}
    (hd : (p.solver.log name).discover d name = .error (e, t)) :
    ∀ f ∈ t.attempted, Sectioned fixed p.solver.inputs f := by
  intro f hf
  rcases eq_or_takeUp_of_discover hd with rfl | ⟨q, base, name', form, hsplit, hi, rfl⟩
  · exact h.sectioned f hf
  · rcases ((takeUp_grows _ _ _).attempted f).mp hf with hf | hr
    · exact h.sectioned f hf
    · have hdep : Sectioned fixed p.solver.inputs d :=
        (h.sectioned name hn).of_unmet (h.registered.evaluates hy)
      obtain ⟨base', rfl, -⟩ := Form.exists_of_mem_requiredAs hr
      exact hdep.of_split hsplit (Library.split_of_instantiate hi)

theorem fails {e : TaxError} (h : Lasting known fixed p) (hf : Fails p e t) :
    Lasting known fixed ⟨t, p.held, none⟩ := by
  obtain ⟨-, evaluated, asked, new, hg⟩ := exists_grows_of_fails hf
  have hgiven : t.inputs.given = p.solver.inputs.given := hg.given
  have hsame : Traces (Traced fixed p.solver) (fun i => p.solver.inputs.raw? i = none)
      { p.solver with evaluated, asked } :=
    ⟨h.traces.committed, h.traces.waiting, h.traces.lacking, h.traces.left⟩
  refine ⟨registered_fails h.registered hf, balanced_fails h.balanced hf,
    traces_grows hsame rfl rfl hg, fun f hm => ?_⟩
  refine Sectioned.of_given (?_ : Sectioned fixed p.solver.inputs f) (hgiven ▸ fun q hq => hq)
  cases hf with
  | missed hv hy hd => exact h.sectioned_misses h.balanced.attempted_current hy hd f hm
  | cyclic hv hy hd hp => exact h.sectioned_discovers h.balanced.attempted_current hy hd f hm
  | _ => exact h.sectioned f hm

/-- A trace that ends where nothing overtook it is what the evaluation comes to. -/
theorem evaluates (h : Lasting known fixed p) (hfixed : ∀ form ∈ statements, form ∈ fixed)
    (hf : f ∈ p.solver.attempted) (hd : f ≠ deductionTotal ∨ "8889" ∈ fixed)
    (ht : Traced fixed p.solver f outcome)
    (ho : ¬ Overtaken p.solver.inputs p.solver.values outcome) :
    library.Evaluates p.solver.inputs p.solver.values f outcome := by
  obtain ⟨inputs, values, he, hk, hc, hv⟩ := ht
  have hknows : ∀ q base, Name.split f = some (q, base) →
      inputs.Knows library q ∧ p.solver.inputs.Knows library q :=
    fun q base hs => ⟨hk q base hs, h.registered.knows (h.registered.mem_forms hf hs)⟩
  exact (carries_of_evaluates he hknows hfixed hd hc hv).resolve_right ho

/-- Once nothing is left to do, the place of a field is what its evaluation comes to. -/
theorem exists_outcome (h : Lasting known fixed ⟨s, [], none⟩)
    (hfixed : ∀ form ∈ statements, form ∈ fixed) (hw : s.hasWork = false) (hf : f ∈ s.attempted)
    (hd : f ≠ deductionTotal ∨ "8889" ∈ fixed) :
    ∃ outcome, Outcome s f outcome ∧ library.Evaluates s.inputs s.values f outcome := by
  obtain ⟨-, hmet, hinput, -⟩ := hasWork_eq_false hw
  rcases h.balanced.settled hw hf with hv | ⟨d, hd'⟩ | ⟨i, hi⟩ | hu
  · obtain ⟨v, hv⟩ := Option.isSome_iff_exists.mp hv
    refine ⟨_, .committed hv, h.evaluates hfixed hf hd (h.traces.committed f v hv) ?_⟩
    rintro ⟨⟩
  · obtain ⟨-, ht, hm⟩ := h.traces.waiting f d hd'
    simp only [hmet, List.not_mem_nil, false_or] at hm
    refine ⟨_, .waiting hd', h.evaluates hfixed hf hd ht ?_⟩
    rintro (hhas | -)
    simp [ValueStore.has, hm] at hhas
  · obtain ⟨ht, hi'⟩ := h.traces.lacking f i hi
    simp only [hinput, List.not_mem_nil, false_or] at hi'
    refine ⟨_, .lacking hi, h.evaluates hfixed hf hd ht ?_⟩
    rintro (- | hhas)
    simp [InputStore.has, hi'] at hhas
  · obtain ⟨m, hm⟩ := h.traces.left f hu
    refine ⟨_, .left hu, h.evaluates hfixed hf hd hm ?_⟩
    rintro ⟨⟩

end Lasting

/-- What holds throughout a session over given inputs, whoever answers and whatever fails. -/
structure Standing (inputs : InputStore) (p : Point) : Prop
    extends Lasting inputs.specs statements p where
  carries : inputs.Carries statements p.solver.inputs
  opened : ∀ q ∈ p.solver.inputs.given.names, q ∈ inputs.given.names ∨ q ∈ p.solver.forms

/-- An answer opens no section but that of a form taken up. -/
theorem Standing.opened_step (h : Standing inputs p) (hs : Step p p') :
    ∀ q ∈ p'.solver.inputs.given.names, q ∈ inputs.given.names ∨ q ∈ p'.solver.forms := by
  have hforms : ∀ q, q ∈ inputs.given.names ∨ q ∈ p.solver.forms →
      q ∈ inputs.given.names ∨ q ∈ p'.solver.forms :=
    fun q hq => hq.imp_right (mem_forms_step hs)
  cases hs with
  | wait hv hy hd hp =>
    obtain ⟨new, hg, -⟩ := hd.grows
    exact fun q hq => hforms q (h.opened q (hg.given ▸ hq))
  | @accept s hand input spec value raw new inputs' hc hr ha hw hs hp hg =>
    intro q hq
    obtain ⟨⟨q', base, hsplit, hq'⟩, -⟩ := (h.registered.inputSpec input spec).mp hs
    obtain ⟨q'', key, hsplit', ⟨-, rfl⟩ | ⟨-, rfl⟩⟩ := InputStore.give_eq_ok hg
    · exact h.opened q hq
    · rcases Sections.mem_names_set.mp hq with rfl | hq
      · rw [hsplit] at hsplit'
        cases hsplit'
        exact .inr hq'
      · exact h.opened q hq
  | _ => exact fun q hq => hforms q (h.opened q hq)

theorem standing_step (h : Standing inputs p) (hs : Step p p') : Standing inputs p' where
  toLasting := h.toLasting.step hs
  carries := h.carries.trans (h.carries_step hs)
  opened := h.opened_step hs

theorem standing_initial {canAsk : Bool} :
    Standing inputs ⟨initial library inputs canAsk, [], none⟩ where
  toLasting := .initial
  carries := .refl
  opened _ hq := .inl hq

theorem standing_addForm (h : Standing inputs ⟨s, lost, none⟩) (ha : s.addForm q = .ok t) :
    Standing inputs ⟨t, lost, none⟩ := by
  obtain ⟨new, hg⟩ := addForm_grows ha
  refine ⟨h.addForm ha fun form hform _ => .inr hform,
    h.carries.trans (InputStore.carries_of_given hg.given), fun q' hq' => ?_⟩
  exact (h.opened q' (hg.given ▸ hq')).imp_right (mem_forms_addForm ha)

theorem Standing.finish (h : Standing inputs ⟨s, lost, none⟩) :
    Standing inputs ⟨s.finish, lost, none⟩ :=
  ⟨h.toLasting.finish, h.carries, h.opened⟩

theorem standing_fails {e : TaxError} (h : Standing inputs p) (hf : Fails p e t) :
    Standing inputs ⟨t, p.held, none⟩ := by
  obtain ⟨hforms, evaluated, asked, new, hg⟩ := exists_grows_of_fails hf
  exact ⟨h.toLasting.fails hf, h.carries.trans (InputStore.carries_of_given hg.given),
    fun q hq => (h.opened q (hg.given ▸ hq)).imp_right (hforms q)⟩

theorem standing_session {canAsk : Bool} (h : Session (initial library inputs canAsk) calls s) :
    ∃ lost, Standing inputs ⟨s, lost, none⟩ := by
  obtain ⟨lost, hs, -⟩ := h.induction (I := Standing inputs) standing_initial
    (fun _ _ _ _ _ hs ha => standing_addForm hs ha) (fun _ _ hp hs => standing_step hp hs)
    (fun _ _ hs _ => hs.finish) (.inr fun _ _ _ hp hf => standing_fails hp hf)
  exact ⟨lost, hs⟩

/-- What is committed is what the evaluation comes to, except for the total over the forms 8889. -/
theorem Standing.current {v : Value} (h : Standing inputs p)
    (hv : p.solver.values.get? f = some v) (hf : f ≠ deductionTotal) :
    library.Evaluates p.solver.inputs p.solver.values f (.ok v) := by
  refine h.evaluates (fun _ hs => hs) ?_ (.inl hf) (h.traces.committed f v hv) ?_
  · exact h.balanced.attempted_of_has (by simp [ValueStore.has, hv])
  · rintro ⟨⟩

/-- What is committed, on all forms but Schedule 1, is what its computation comes to, kept in its
kind. -/
theorem Standing.exists_computed {name : FormName} {form : Form} {field : Field}
    (h : Standing inputs p) (hi : library.instantiate q = .ok (name, form))
    (hne : name.name ≠ "1040_s1") (hb : form.field? base = some field)
    (hhas : p.solver.values.has (q ++ "." ++ base)) :
    ∃ w v, field.compute ⟨⟨q, p.solver.values⟩, p.solver.inputs⟩ = .ok w ∧
      field.kind.canonicalize w = .ok v ∧ p.solver.values.get? (q ++ "." ++ base) = some v := by
  obtain ⟨v, hv⟩ := Option.isSome_iff_exists.mp hhas
  have hp := (Library.instantiate_eq_ok hi).1
  have hother : q ++ "." ++ base ≠ deductionTotal := by
    intro he
    have hline : fieldLine deductionTotal = some ("1040_s1", "13") := by decide
    rw [← he, fieldLine_scoped hp, Option.some_inj, Prod.mk.injEq] at hline
    exact hne hline.1
  have he := h.current hv hother
  rw [Library.evaluates_iff (FormName.split_of_parse hp) hi hb] at he
  obtain ⟨w, hw, hk⟩ := Field.evaluate_eq_ok.mp he
  exact ⟨w, v, hw, hk, hv⟩

/-- So an amount that is committed is what is kept of what its computation comes to. -/
theorem Standing.exists_money {name : FormName} {form : Form} {amount : Compute Decimal}
    (h : Standing inputs p) (hi : library.instantiate q = .ok (name, form))
    (hne : name.name ≠ "1040_s1") (hb : form.field? base = some (Line.money base amount))
    (hhas : p.solver.values.has (q ++ "." ++ base)) :
    ∃ d, amount ⟨⟨q, p.solver.values⟩, p.solver.inputs⟩ = .ok d ∧
      p.solver.values.get? (q ++ "." ++ base) = some (.number (d.fixPlaces 2)) := by
  obtain ⟨w, v, hw, hk, hv⟩ := h.exists_computed hi hne hb hhas
  obtain ⟨d, hd, hw⟩ := Compute.bind_eq_ok.mp hw
  cases hw
  cases hk
  exact ⟨d, hd, hv⟩

/-- No answer opens a section of a statement. -/
theorem Standing.sectionsOf_perm (h : Standing inputs p) {form : String}
    (hform : form ∈ statements) :
    (p.solver.inputs.sectionsOf form).Perm (inputs.sectionsOf form) := by
  have hperm := p.solver.inputs.sectionsOf_perm form
  rw [h.carries.instances form hform] at hperm
  exact hperm.symm.trans (inputs.sectionsOf_perm form)

end TaxReturn.Year2023
