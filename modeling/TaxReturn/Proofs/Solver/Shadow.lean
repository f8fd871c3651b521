import TaxReturn.Proofs.Solver.Twins

/-! The course of a solve that stays in the shadow of another one: it fails nowhere, ends, and has
computed every field by then. -/
namespace TaxReturn.Solver

variable {s t : Solver} {p p' : Point} {f f' q : String} {C : Correspondence} {library : Library}
  {given given' : Sections} {requests lost : List String} {rank : String → ℕ}
  {outcome : Except Signal Value} {reply : Reply}

/-- A value corresponds to the one of the twin. -/
def Original.Echoed (s : Solver) (C : Correspondence) (f' : String) (v' : Value) : Prop :=
  ∃ f q base v, C.OnTwins f f' ∧ Name.split f = some (q, base) ∧ s.values.get? f = some v ∧
    v.Alike (C.Loose q) v'

namespace Original

variable (o : Original C library rank given given' requests s)

namespace Shadows

variable {o}

/-- What the evaluation of a twin comes to: a corresponding value, or a stop at a twin. -/
theorem evaluated (h : o.Shadows p) (hf' : f' ∈ p.solver.attempted)
    (he : library.Evaluates p.solver.inputs p.solver.values f' outcome) :
    (∃ v', outcome = .ok v' ∧ Echoed s C f' v') ∨
      ∃ d d', C.OnTwins d d' ∧ s.values.has d ∧ outcome = .error (.unmet d') := by
  obtain ⟨f, hf, q, q', base, ht, hs, hs'⟩ := h.attempted f' hf'
  obtain ⟨v, hv, r, base', name, form, field, hr, hi, hb, hev⟩ := o.evaluates hf
  rw [hs] at hr
  cases hr
  obtain ⟨name', hi'⟩ := o.matched.instantiate ht hi
  have hmirrors := h.mirrors hf hf' ht hs hs' hi
  have hfield := o.reflected form (Library.mem_forms_of_instantiate hi) field
    (List.mem_of_find?_eq_some hb)
  obtain rfl := (Library.evaluates_iff hs' hi' hb).mp he
  rcases hfield.evaluate hmirrors v hev with ⟨v', hv', hvv⟩ | ⟨d, d', hd, hdv, hstop⟩
  · exact .inl ⟨v', hv', f, q, base, v, ⟨q, q', base, ht, hs, hs'⟩, hs, hv, hvv⟩
  · exact .inr ⟨d, d', hd, hdv, hstop⟩

/-- A field that a twin stops at is the twin of a field that was solved. -/
theorem of_unmet {d' : String} (h : o.Shadows p) (hf' : f' ∈ p.solver.attempted)
    (he : library.Evaluates p.solver.inputs p.solver.values f' (.error (.unmet d'))) :
    ∃ d ∈ s.attempted, C.OnTwins d d' := by
  rcases h.evaluated hf' he with ⟨v', hv', -⟩ | ⟨d, d'', hd, hdv, hstop⟩
  · cases hv'
  · cases hstop
    exact ⟨d, o.final.unprompted.balanced.attempted_of_has hdv, hd⟩

end Shadows

include o in
/-- The required fields of a twin are twins of the required fields. -/
theorem twins_of_required {q' : String} {name' : FormName} {form : Form} (hq : q ∈ s.forms)
    (ht : C.twins q q') (hi' : library.instantiate q' = .ok (name', form))
    (hf' : f' ∈ form.requiredAs name') : ∃ f ∈ s.attempted, C.OnTwins f f' := by
  obtain ⟨name, hi⟩ : ∃ name, library.instantiate q = .ok (name, form) :=
    o.matched.flip.instantiate ht hi'
  obtain ⟨field, hm, rfl⟩ := List.mem_map.mp hf'
  have hrequired : name.qualify field.name ∈ form.requiredAs name :=
    List.mem_map_of_mem (f := fun field : Field => name.qualify field.name) hm
  exact ⟨_, o.final.unprompted.registered.attempted_of_required hi hq hrequired, q, q', _, ht,
    Library.split_of_instantiate hi, Library.split_of_instantiate hi'⟩

namespace Shadows

variable {o}

theorem step (h : o.Shadows p) (hs : Step p p') : o.Shadows p' where
  unprompted := unprompted_step o.stable InputStore.agreesWith_ofSections h.unprompted hs
  ranked := by
    refine ranked_step (fun name d hy => ?_) h.ranked hs
    exact o.sound.rank _ _ name d (h.unprompted.registered.evaluates hy)
  attempted := by
    -- What is new comes from a wait: the field that is waited for and what its form requires.
    cases hs with
    | @wait s' t hand name dep hv hy hd hp =>
      have hn : name ∈ s'.attempted := h.unprompted.balanced.attempted_current
      have he := h.unprompted.registered.evaluates hy
      obtain ⟨d, hda, htwins⟩ := h.of_unmet hn he
      refine hd.within h.attempted ⟨d, hda, htwins⟩ fun q' base' name' form hs' hi' f' hf' => ?_
      obtain ⟨q, r, base, ht, hs, hsr⟩ := htwins
      rw [hs'] at hsr
      cases hsr
      have hl : (s'.log name).library = library := h.unprompted.registered.source
      have hq := o.final.unprompted.registered.mem_forms hda hs
      exact o.twins_of_required hq ht (hl ▸ hi') hf'
    | _ => exact h.attempted
  values := by
    cases hs with
    | @commit s' hand name value hv hy =>
      intro n n' q q' base v' ht hs hs' hget
      have hn : name ∈ s'.attempted := h.unprompted.balanced.attempted_current
      rw [ValueStore.get?_commit] at hget
      split at hget
      · rename_i he
        subst he
        have hnone : s'.values.get? n' = none := by simpa [ValueStore.has] using hv
        rw [hnone] at hget
        cases hget
        rcases h.evaluated hn (h.unprompted.registered.evaluates hy) with
          ⟨w, hw, f, r, base', v, htwins, hsr, hfv, hvw⟩ | ⟨_, _, _, _, hu⟩
        · obtain ⟨r', q'', base'', ht', hsf, hs''⟩ := htwins
          cases hw
          rw [hs'] at hs''
          cases hs''
          rw [hsf] at hsr
          cases hsr
          obtain rfl := o.matched.left_unique _ _ _ ht ht'
          rw [(Name.split_eq_some_iff.mp hs).1, ← (Name.split_eq_some_iff.mp hsf).1]
          exact ⟨v, hfv, hvw⟩
        · cases hu
      · exact h.values ht hs hs' hget
    | @wait s' t hand name dep hv hy hd hp =>
      intro n n' q q' base v' ht hs hs' hget
      obtain ⟨new, hg, -⟩ := hd.grows
      exact h.values ht hs hs' (hg.values ▸ hget)
    | _ => exact h.values

theorem steps (h : o.Shadows p) (hs : Steps p p') : o.Shadows p' :=
  hs.preserves (fun _ _ => step) h

/-- Nothing fails on the way: no evaluation is an error, what is needed is there, and no chain of
waits closes. -/
theorem not_fails {e : TaxError} (h : o.Shadows p) : ¬ Fails p e t := by
  have hreg := h.unprompted.registered
  intro hf
  cases hf with
  | @unknown _ hand name reader hv hf =>
    have hn : name ∈ t.attempted := h.unprompted.balanced.attempted_current
    have := hreg.field hn
    simp [hf] at this
  | @fatal s' hand name e hv hy =>
    have hn : name ∈ s'.attempted := h.unprompted.balanced.attempted_current
    rcases h.evaluated hn (hreg.evaluates hy) with ⟨v', hv', -⟩ | ⟨_, _, _, _, hu⟩
    · cases hv'
    · cases hu
  | @missed s' t hand name dep e hv hy hd =>
    have hn : name ∈ s'.attempted := h.unprompted.balanced.attempted_current
    obtain ⟨d, hda, q, q', base, ht, hs, hs'⟩ := h.of_unmet hn (hreg.evaluates hy)
    obtain ⟨v, hv, r, base', name', form, field, hr, hi, hb, hev⟩ := o.evaluates hda
    rw [hs] at hr
    cases hr
    obtain ⟨name'', hi'⟩ := o.matched.instantiate ht hi
    have hlog : Registered library ∅ (s'.log name) := hreg.same ⟨rfl, rfl, rfl, rfl, rfl, rfl⟩
    obtain ⟨t', ht'⟩ := exists_discover hlog name hs' hi' hb
    rw [ht'] at hd
    cases hd
  | @cyclic s' t hand name dep path hv hy hd hw =>
    -- A field waits for one of a lower rank, so the chain of waits does not come back to it.
    obtain ⟨new, hg, -⟩ := hd.grows
    have hlt := o.sound.rank _ _ name dep (hreg.evaluates hy)
    have hnone := h.ranked.waitPath_eq_none hlt
    have hwait : t.waitingOn = s'.waitingOn := hg.waitingOn
    rw [hwait] at hw
    exact absurd (hw.symm.trans hnone) (by simp)
  | unspecified hc => exact absurd hc h.unprompted.not_canAsk
  | unreadable hc => exact absurd hc h.unprompted.not_canAsk
  | ungiven hc => exact absurd hc h.unprompted.not_canAsk

theorem initial : o.Shadows ⟨Solver.initial library (.ofSections given') false, [], none⟩ where
  unprompted := unprompted_initial
  ranked := by simp [Ranked, Solver.initial]
  attempted := by simp [Solver.initial]
  values := by simp [Solver.initial, ValueStore.empty, ValueStore.get?]

theorem addForm (h : o.Shadows ⟨p.solver, lost, none⟩) (hq : q ∈ requests)
    (ha : p.solver.addForm q = .ok t) : o.Shadows ⟨t, lost, none⟩ := by
  have hun := unprompted_addForm InputStore.agreesWith_ofSections h.unprompted ha hq
  have hl : p.solver.library = library := h.unprompted.registered.source
  obtain ⟨name, form, hi, ⟨-, rfl⟩ | ⟨-, rfl⟩⟩ := addForm_eq_ok ha
  · exact h
  · have hg := takeUp_grows p.solver name form
    refine ⟨hun, ?_, fun f' hf' => ?_, fun ht hs hs' hget => h.values ht hs hs' (hg.values ▸ hget)⟩
    · simpa only [Ranked, hg.waitingOn] using h.ranked
    · rcases (hg.attempted f').mp hf' with hf' | hf'
      · exact h.attempted f' hf'
      · exact o.twins_of_required (o.final.requested q hq) (o.requested q hq) (hl ▸ hi) hf'

/-- When nothing is left to do every field has been computed: a field that still waits would wait
for one of a lower rank. -/
theorem has_of_not_hasWork (h : o.Shadows ⟨t, [], none⟩) (hw : t.hasWork = false)
    (hf' : f' ∈ t.attempted) : t.values.has f' := by
  induction hn : rank f' using Nat.strongRecOn generalizing f' with
  | ind n ih =>
    obtain ⟨outcome, ho, he⟩ := h.unprompted.exists_outcome o.stable hw hf'
    cases ho with
    | committed hv => simp [ValueStore.has, hv]
    | @waiting d' hwait =>
      have hd' : d' ∈ t.attempted := (h.unprompted.traces.waiting f' d' hwait).1
      have hlt := o.sound.rank _ _ _ _ he
      have hhas := ih _ (hn ▸ hlt) hd' rfl
      simp [ValueStore.has, he.absent o.stable] at hhas
    | lacking hlack =>
      rcases h.evaluated hf' he with ⟨v', hv', -⟩ | ⟨_, _, _, _, hu⟩
      · cases hv'
      · cases hu
    | left hleft =>
      rcases h.evaluated hf' he with ⟨v', hv', -⟩ | ⟨_, _, _, _, hu⟩
      · cases hv'
      · cases hu

end Shadows

section sessions

include o

/-- A session over the other sections stays in the shadow. -/
theorem shadows_added
    (hs : Session (Solver.initial library (.ofSections given') false) (adding requests) t) :
    o.Shadows ⟨t, [], none⟩ := by
  obtain ⟨lost, hp, hlost⟩ := hs.induction (I := o.Shadows) Shadows.initial
    (fun s t q lost hq hp ha => by
      rw [requested_adding] at hq
      exact Shadows.addForm (p := ⟨s, lost, none⟩) hp hq ha)
    (fun _ _ hp hs => hp.step hs)
    (fun _ _ hp _ => ⟨hp.unprompted.finish, hp.ranked, hp.attempted, hp.values⟩)
    (.inl errorFree_adding)
  exact hlost errorFree_adding ▸ hp

/-- However the session goes on to a solve, the solve returns with every field computed. -/
theorem shadows_session
    (hs : Session (Solver.initial library (.ofSections given') false)
      (adding requests ++ [(.solve, reply)]) t) :
    reply = .returned true ∧ o.Shadows ⟨t, [], none⟩ ∧ ∀ f' ∈ t.attempted, t.values.has f' := by
  obtain ⟨u, hu, hr⟩ := hs.last
  have hsu := o.shadows_added hu
  cases hr with
  | failed hr =>
    obtain ⟨p', hst, hf⟩ := exists_fails_of_failed hr []
    exact absurd hf (hsu.steps hst).not_fails
  | returned hr =>
    cases from_round u [] (leads_of_solve_finished hr) with
    | @finished v hst hw =>
      have hv := hsu.steps hst
      have hall : ∀ f' ∈ v.attempted, v.values.has f' := fun f' hf' => hv.has_of_not_hasWork hw hf'
      have hsolved := (solved_iff_of_returned hsu.unprompted.balanced (.returned hr)).mpr hall
      refine ⟨by rw [hsolved], ?_, hall⟩
      exact ⟨hv.unprompted.finish, hv.ranked, hv.attempted, hv.values⟩

/-- There is such a session: all the forms can be asked for, and the solve ends. -/
theorem exists_session : ∃ t, Session (Solver.initial library (.ofSections given') false)
    (adding requests ++ [(.solve, .returned true)]) t := by
  have hforms : ∀ q ∈ requests, ∃ x, library.instantiate q = .ok x := by
    intro q hq
    obtain ⟨form, hf⟩ := Name.mem_iff_getElem?.mp (o.final.requested q hq)
    obtain ⟨name, hi⟩ := o.final.unprompted.registered.instantiated q form hf
    exact ⟨_, hi⟩
  -- The solve ends by the bound on its moves. That it ends well is what the shadow shows.
  obtain ⟨u, hu⟩ := exists_added (.ofSections given') hforms
  let ask : Question → StateM Unit (Option String) := fun _ => pure none
  obtain ⟨⟨n, hn⟩, -⟩ := hu.solve_ends o.sound ask ()
  cases hr : (u.solve ask n).run () with
  | mk ending w =>
    cases ending with
    | unfinished v => exact absurd (congrArg Prod.fst hr) (hn v)
    | finished v =>
      have hsession := hu.call (.returned hr)
      obtain ⟨he, -, -⟩ := o.shadows_session hsession
      rw [he] at hsession
      exact ⟨v, hsession⟩
    | failed e v =>
      have hsession := hu.call (.failed hr)
      obtain ⟨he, -, -⟩ := o.shadows_session hsession
      cases he

end sessions

namespace Shadows

variable {o} {q' : String}

/-- The forms that are taken up are twins. -/
theorem exists_form (h : o.Shadows ⟨t, [], none⟩)
    (ht : Final library (.ofSections given') requests t) (hq' : q' ∈ t.forms) :
    ∃ q ∈ s.forms, C.twins q q' := by
  rcases ht.mem_forms_iff.mp hq' with hr | ⟨f', hf', base, hs'⟩
  · exact ⟨q', o.final.requested q' hr, o.requested q' hr⟩
  · obtain ⟨f, hf, q, r, base', htwins, hs, hr⟩ := h.attempted f' hf'
    rw [hs'] at hr
    cases hr
    exact ⟨q, o.final.unprompted.registered.mem_forms hf hs, htwins⟩

/-- What a solution says of a twin is the text of a corresponding value of the same field. -/
theorem exists_text {solution solution' : Solution} {key text' : String}
    (h : o.Shadows ⟨t, [], none⟩) (hs : Encodes s solution) (ht : Encodes t solution')
    (htwins : C.twins q q') (hq : q ∈ s.forms) (htext : solution'.get? q' key = some text') :
    ∃ form ∈ library.forms, ∃ field ∈ form.fields, ∃ v v', field.kind.holds v ∧
      v.Alike (C.Loose q) v' ∧ solution.get? q key = some (field.encode v) ∧
        text' = field.encode v' := by
  have hregs := o.final.unprompted.registered
  have hregt := h.unprompted.registered
  obtain ⟨v', field, hv', hfield, rfl⟩ := (ht.entries q' key text').mp htext
  obtain ⟨base, form, hs', hform, hb⟩ := hregt.field?_eq_some_iff.mp hfield
  have hpoint := (Name.split_eq_some_iff.mp hs').2
  obtain rfl : key = base := by
    rw [Name.split_scoped hpoint] at hs'
    cases hs'
    rfl
  obtain ⟨name', hi'⟩ := hregt.instantiated q' form hform
  obtain ⟨name, hi⟩ : ∃ name, library.instantiate q = .ok (name, form) :=
    o.matched.flip.instantiate htwins hi'
  have hsplit : Name.split (q ++ "." ++ key) = some (q, key) :=
    FormName.split_of_parse (Library.instantiate_eq_ok hi).1
  obtain ⟨v, hv, halike⟩ := h.values htwins hsplit hs' hv'
  have hatt := o.final.unprompted.balanced.attempted_of_has (Option.isSome_of_eq_some hv)
  have hsfield : s.field? (q ++ "." ++ key) = some (q, field) :=
    hregs.field?_eq_some_iff.mpr
      ⟨key, form, hsplit, hregs.getElem?_forms.mpr ⟨hq, name, hi⟩, hb⟩
  have hholds : field.kind.holds v := by
    obtain ⟨w, hw, he⟩ := o.evaluates hatt
    rw [hv] at hw
    cases hw
    obtain ⟨x, -, hk⟩ := Field.evaluate_eq_ok.mp ((Library.evaluates_iff hsplit hi hb).mp he)
    exact ValueKind.holds_of_canonicalize hk
  exact ⟨form, Library.mem_forms_of_instantiate hi, field, List.mem_of_find?_eq_some hb, v, v',
    hholds, halike, (hs.entries q key _).mpr ⟨v, field, hv, hsfield, rfl⟩, rfl⟩

end Shadows

end Original

/-- A session that has ended can write its solution. -/
theorem Final.exists_solution {inputs : InputStore} (h : Final library inputs requests s) :
    ∃ solution, s.solution = .ok solution ∧ Encodes s solution := by
  have hreg := h.unprompted.registered
  exact hreg.exists_solution fun f hf =>
    hreg.attempted f (h.unprompted.balanced.attempted_of_has hf)

end TaxReturn.Solver
