import TaxReturn.Proofs.Typing
import TaxReturn.Proofs.Solver.Cycles
import TaxReturn.Proofs.Solver.Exactness
import TaxReturn.Proofs.Solver.Passable

/-! Solves over a library whose fields are in order and wait for fields of a lower rank. What is
committed stays of the kind of its field, so that evaluations stay in order, and a field that is
needed is one that there is, unless it belongs to a section of the inputs with a tag that its form
does not list. The instances that fields can belong to are then finitely many, and a solve ends. -/
namespace TaxReturn

/-- A library whose fields are in order, and wait for fields of a lower rank. -/
structure Library.Sound (library : Library) (rank : String → ℕ) : Prop where
  orderly : ∀ form ∈ library.forms, ∀ field ∈ form.fields, field.Orderly library form
  rank : ∀ inputs values f d, library.Evaluates inputs values f (.error (.unmet d)) →
    rank d < rank f

/-- The errors that a solve over a sound library can end with. -/
inductive Excused (library : Library) (given : Sections) : TaxError → Prop
  | unreadable {n raw : String} {fault : ValueFault} :
      Excused library given (.invalidInput n raw fault)
  | overflow {what : String} : Excused library given (.overflow what)
  | unlisted {form : Form} {tag : String} {tags : List String} (hf : form ∈ library.forms)
      (hi : form.instancing = .fixed tags) (ht : tag ∉ tags)
      (hs : form.name ++ ":" ++ tag ∈ given.names) :
      Excused library given (.invalidInstance form.name (some tag) (.unlisted tags))

namespace Solver

variable {s t : Solver} {p p' : Point} {name q : String} {library : Library} {given : Sections}
  {rank : String → ℕ} {outcome : Except Signal Value} {lost : List String} {canAsk : Bool}
  {calls : List (Call × Reply)} {known : Name.Table InputSpec} {field : Field}

/-- What holds throughout a session over a sound library. -/
structure InOrder (library : Library) (given : Sections) (rank : String → ℕ) (s : Solver) :
    Prop where
  registered : Registered library ∅ s
  ranked : Ranked rank s
  typed : s.values.Typed library
  /-- An input that fields wait for can be read. -/
  readable : ∀ i f, f ∈ s.inputWaits.waiters i → i ∈ s.inputSpecs
  /-- A section that was not there from the start is one of an instance that is taken up. -/
  sections : ∀ q ∈ s.inputs.given.names, q ∈ given.names ∨ q ∈ s.forms

theorem Registered.mem_inputSpecs (h : Registered library known s) (ht : Registered library known t)
    (hforms : ∀ q ∈ s.forms, q ∈ t.forms) {i : String} (hi : i ∈ s.inputSpecs) :
    i ∈ t.inputSpecs := by
  obtain ⟨spec, hspec⟩ := Name.mem_iff_getElem?.mp hi
  obtain ⟨⟨q, base, hs, hq⟩, hl⟩ := (h.inputSpec i spec).mp hspec
  exact Name.mem_iff_getElem?.mpr
    ⟨spec, (ht.inputSpec i spec).mpr ⟨⟨q, base, hs, hforms q hq⟩, hl⟩⟩

/-- More forms are known and fields to be solved, and nothing else has changed. -/
theorem InOrder.grows {new : String → Prop} (h : InOrder library given rank s)
    (hg : Grows s t new) (hforms : ∀ q ∈ s.forms, q ∈ t.forms) (hreg : Registered library ∅ t) :
    InOrder library given rank t where
  registered := hreg
  ranked := by simpa only [Ranked, hg.waitingOn] using h.ranked
  typed := hg.values ▸ h.typed
  readable i f hf := by
    rw [hg.inputWaits] at hf
    exact h.registered.mem_inputSpecs hreg hforms (h.readable i f hf)
  sections q hq := by
    rw [hg.given] at hq
    exact (h.sections q hq).imp_right (hforms q)

/-- A state in which what is read and noted is the same. -/
theorem InOrder.same (h : InOrder library given rank s) (hs : SameRegistry s t)
    (hwaits : t.waitingOn = s.waitingOn) (hv : t.values = s.values)
    (hi : t.inputWaits = s.inputWaits) (hg : t.inputs.given = s.inputs.given) :
    InOrder library given rank t where
  registered := h.registered.same hs
  ranked := by simpa only [Ranked, hwaits] using h.ranked
  typed := hv ▸ h.typed
  readable := by
    rw [hi, hs.inputSpecs]
    exact h.readable
  sections := by
    rw [hg, hs.forms]
    exact h.sections

theorem InOrder.log (h : InOrder library given rank s) :
    InOrder library given rank (s.log name) :=
  h.same ⟨rfl, rfl, rfl, rfl, rfl, rfl⟩ rfl rfl rfl rfl

/-- Over stores that fit, an evaluation comes to an outcome that is in order. -/
theorem InOrder.orderly (hlib : library.Sound rank) (h : InOrder library given rank s)
    (hy : s.Yields name outcome) : ∃ q field, q ∈ s.forms ∧ library.field? name = some field ∧
      Orderly library ⟨⟨q, s.values⟩, s.inputs⟩ (fun v => field.kind.holds v) outcome := by
  obtain ⟨q, field, hf, rfl⟩ := hy
  obtain ⟨base, form, hs, hq, hb⟩ := h.registered.field?_eq_some_iff.mp hf
  obtain ⟨form', hi⟩ := h.registered.instantiated q form hq
  have hm : q ∈ s.forms := Name.mem_iff_getElem?.mpr ⟨form, hq⟩
  have hfits : Scope.Fits library form ⟨⟨q, s.values⟩, s.inputs⟩ :=
    ⟨⟨form', hi⟩, h.registered.knows hm, h.typed⟩
  have hfield := hlib.orderly form (Library.mem_forms_of_instantiate hi) field
    (List.mem_of_find?_eq_some hb)
  refine ⟨q, field, hm, ?_, hfield.evaluate hfits⟩
  rw [(Name.split_eq_some_iff.mp hs).1, Library.field?_of_instantiate hi, hb]

theorem inOrder_step (hlib : library.Sound rank) (h : InOrder library given rank p.solver)
    (hs : Step p p') : InOrder library given rank p'.solver := by
  have hreg := registered_step h.registered hs
  have hforms : ∀ q ∈ p.solver.forms, q ∈ p'.solver.forms := fun _ => mem_forms_step hs
  have hrank : Ranked rank p'.solver := by
    refine ranked_step (fun name d hy => ?_) h.ranked hs
    exact hlib.rank _ _ _ _ (h.registered.evaluates hy)
  cases hs with
  | @commit s hand name value hv hy =>
    refine ⟨hreg, hrank, fun n v hn => ?_, h.readable, h.sections⟩
    obtain ⟨q, field, -, hf, ho⟩ := h.orderly hlib hy
    rw [ValueStore.get?_commit] at hn
    split at hn
    · rename_i he
      have hnone : s.values.get? name = none := by simpa [ValueStore.has] using hv
      rw [hnone] at hn
      cases hn
      cases ho with
      | value hh => exact ⟨field, he ▸ hf, hh⟩
    · exact h.typed n v hn
  | @wait s t hand name dep hv hy hd hp =>
    obtain ⟨new, hg, -⟩ := hd.grows
    have ht : InOrder library given rank t :=
      h.log.grows hg hforms (hreg.same ⟨rfl, rfl, rfl, rfl, rfl, rfl⟩)
    exact ⟨hreg, hrank, ht.typed, ht.readable, ht.sections⟩
  | @lack s hand name i hv hy =>
    refine ⟨hreg, hrank, h.typed, fun j f hf => ?_, h.sections⟩
    rcases Waitlist.mem_waiters_add.mp hf with hf | ⟨rfl, rfl⟩
    · exact h.readable j f hf
    · obtain ⟨q, field, -, -, ho⟩ := h.orderly hlib hy
      cases ho with
      | missingInput hs =>
        rw [InputStore.spec?, h.registered.spec] at hs
        have hj : j ∈ s.inputSpecs := by simpa using hs
        exact hj
  | supply =>
    refine ⟨hreg, hrank, h.typed, fun i f hf => ?_, h.sections⟩
    simp only [Waitlist.waiters_releaseAll] at hf
    split at hf
    · cases hf
    · exact h.readable i f hf
  | @accept s hand input spec value raw new inputs hc hr ha hw hs hp hg =>
    refine ⟨hreg, hrank, h.typed, h.readable, fun q hq => ?_⟩
    obtain ⟨q', key, hsplit, ⟨-, rfl⟩ | ⟨-, rfl⟩⟩ := InputStore.give_eq_ok hg
    · exact h.sections q hq
    · rcases Sections.mem_names_set.mp hq with rfl | hq
      · obtain ⟨⟨q', base, hs', hm⟩, -⟩ := (h.registered.inputSpec input spec).mp hs
        rw [hsplit] at hs'
        cases hs'
        exact .inr hm
      · exact h.sections q hq
  | _ => exact ⟨hreg, hrank, h.typed, h.readable, h.sections⟩

theorem inOrder_steps (hlib : library.Sound rank) (h : InOrder library given rank p.solver)
    (hs : Steps p p') : InOrder library given rank p'.solver :=
  hs.preserves (fun _ _ => inOrder_step hlib) h

theorem inOrder_fails {e : TaxError} (h : InOrder library given rank p.solver)
    (hf : Fails p e t) : InOrder library given rank t := by
  have hreg := registered_fails h.registered hf
  cases hf with
  | @missed s t hand name dep e hv hy hd =>
    have hm := misses_of_discover hd
    obtain ⟨new, hg⟩ := hm.grows
    exact h.log.grows hg (fun _ => hm.mem_forms) hreg
  | @cyclic s t hand name dep path hv hy hd hp =>
    obtain ⟨new, hg, -⟩ := hd.grows
    exact h.log.grows hg (fun _ hq => hd.mem_forms.mpr (.inl hq)) hreg
  | _ => exact h.same ⟨rfl, rfl, rfl, rfl, rfl, rfl⟩ rfl rfl rfl rfl

theorem inOrder_initial :
    InOrder library given rank (initial library (.ofSections given) canAsk) where
  registered := @registered_initial library (.ofSections given) canAsk
  ranked := by simp [Ranked, initial]
  typed := by simp [ValueStore.Typed, initial, ValueStore.empty, ValueStore.get?]
  readable := by simp [initial, Waitlist.empty, Waitlist.waiters]
  sections q hq := .inl hq

theorem Session.inOrder (hlib : library.Sound rank)
    (h : Session (initial library (.ofSections given) canAsk) calls s) :
    InOrder library given rank s := by
  obtain ⟨lost, hs, -⟩ := h.induction (I := fun p => InOrder library given rank p.solver)
    inOrder_initial
    (fun s t q lost _ hs ha => by
      obtain ⟨new, hg⟩ := addForm_grows ha
      exact hs.grows hg (fun _ => mem_forms_addForm ha) (registered_addForm hs.registered ha))
    (fun _ _ hp hs => inOrder_step hlib hp hs)
    (fun _ _ hs _ => hs.same ⟨rfl, rfl, rfl, rfl, rfl, rfl⟩ rfl rfl rfl rfl)
    (.inr fun _ _ _ hp hf => inOrder_fails hp hf)
  exact hs

/-- The only instances that a form with several of them does not have are those that it does not
list. -/
theorem excused_of_instantiate {form : Form} {f tag : String} {e : TaxError}
    (hp : FormName.parse (f ++ ":" ++ tag) = .ok ⟨f, some tag⟩)
    (hf : library.form? f = some form) (hn : form.instancing ≠ .single)
    (hs : f ++ ":" ++ tag ∈ given.names)
    (hi : library.instantiate (f ++ ":" ++ tag) = .error e) : Excused library given e := by
  have hname : form.name = f := by simpa using List.find?_some hf
  subst hname
  rcases Library.instantiate_eq_error hi with ⟨_, _, hp', -⟩ | ⟨name, hp', hcases⟩
  · rw [hp] at hp'
    cases hp'
  · rw [hp] at hp'
    cases hp'
    rcases hcases with ⟨hnone, -⟩ | ⟨form', fault, hf', hc, rfl⟩
    · rw [hf] at hnone
      cases hnone
    · rw [hf] at hf'
      cases hf'
      unfold Form.checkTag at hc
      cases hin : form.instancing with
      | single => exact absurd hin hn
      | free => simp [hin] at hc
      | fixed tags =>
        simp only [hin] at hc
        split at hc
        · cases hc
        · rename_i ht
          cases hc
          exact .unlisted (List.mem_of_find?_eq_some hf) hin ht hs

/-- A field that can be reached can be solved, unless its form does not list the tag of the section
that it belongs to. -/
theorem exists_discover_or {dep : String} (reader : String) (h : InOrder library given rank s)
    {q : String} (ho : Offers library ⟨⟨q, s.values⟩, s.inputs⟩ dep field) :
    (∃ t, s.discover dep reader = .ok t) ∨
      ∃ e, s.discover dep reader = .error (e, s) ∧ Excused library given e := by
  cases ho with
  | @own name form base field hi hb =>
    have hs : Name.split (q ++ "." ++ base) = some (q, base) :=
      FormName.split_of_parse (Library.instantiate_eq_ok hi).1
    exact .inl (exists_discover h.registered reader hs hi hb)
  | @single q' form base field hi hb =>
    have hs : Name.split (q' ++ "." ++ base) = some (q', base) :=
      FormName.split_of_parse (Library.instantiate_eq_ok hi).1
    exact .inl (exists_discover h.registered reader hs hi hb)
  | @counted f tag form base field ht hf hn hb =>
    obtain ⟨q', hq', htag⟩ := InputStore.mem_instances.mp ht
    obtain ⟨rfl, hp⟩ := InputStore.tagOf?_eq_some htag
    have hs : Name.split (f ++ ":" ++ tag ++ "." ++ base) = some (f ++ ":" ++ tag, base) :=
      FormName.split_of_parse hp
    cases hi : library.instantiate (f ++ ":" ++ tag) with
    | ok x =>
      obtain ⟨name, other⟩ := x
      obtain ⟨hp', hf', -⟩ := Library.instantiate_eq_ok hi
      rw [hp] at hp'
      cases hp'
      rw [hf] at hf'
      cases hf'
      exact .inl (exists_discover h.registered reader hs hi hb)
    | error e =>
      right
      have hq : f ++ ":" ++ tag ∉ s.forms := by
        intro hm
        obtain ⟨form', hm⟩ := Name.mem_iff_getElem?.mp hm
        obtain ⟨name, hi'⟩ := h.registered.instantiated _ form' hm
        rw [hi] at hi'
        cases hi'
      have ha : f ++ ":" ++ tag ++ "." ++ base ∉ s.attempted := fun ha =>
        hq (h.registered.mem_forms ha hs)
      have hadd : s.addForm (f ++ ":" ++ tag) = .error e := by
        simp [addForm, h.registered.source, hi, bind, Except.bind]
      refine ⟨e, by simp [discover, ha, hs, hq, hadd], ?_⟩
      exact excused_of_instantiate hp hf hn ((h.sections _ hq').resolve_right hq) hi

/-- Every error that a solve over a sound library comes to is excused. -/
theorem excused_of_fails {e : TaxError} (hlib : library.Sound rank)
    (h : InOrder library given rank p.solver) (hb : Balanced p) (hf : Fails p e t) :
    Excused library given e := by
  cases hf with
  | @unknown _ hand name reader hv hf =>
    have := h.registered.field hb.attempted_current
    simp [hf] at this
  | @fatal s hand name e hv hy =>
    obtain ⟨q, field, -, -, ho⟩ := h.orderly hlib hy
    cases ho with
    | unreadable => exact .unreadable
    | overflow => exact .overflow
  | @missed s t hand name dep e hv hy hd =>
    obtain ⟨q, field, -, -, ho⟩ := h.orderly hlib hy
    cases ho with
    | unmet ho =>
      rcases exists_discover_or name h.log ho with ⟨u, hu⟩ | ⟨e', hu, he⟩
      · rw [hu] at hd
        cases hd
      · rw [hu] at hd
        cases hd
        exact he
  | @cyclic s t hand name dep path hv hy hd hw =>
    obtain ⟨new, hg, -⟩ := hd.grows
    have hlt := hlib.rank _ _ name dep (h.registered.evaluates hy)
    have hnone := h.ranked.waitPath_eq_none hlt
    have hwait : t.waitingOn = s.waitingOn := hg.waitingOn
    rw [hwait] at hw
    exact absurd (hw.symm.trans hnone) (by simp)
  | @unspecified s hand input hc hw hs =>
    obtain ⟨f, hf⟩ := List.exists_mem_of_ne_nil _ hw
    obtain ⟨spec, hspec⟩ := Name.mem_iff_getElem?.mp (h.readable input f hf)
    rw [hspec] at hs
    cases hs
  | unreadable => exact .unreadable
  | @ungiven s hand input raw e hc hw hg =>
    obtain ⟨f, hf⟩ := List.exists_mem_of_ne_nil _ hw
    obtain ⟨spec, hspec⟩ := Name.mem_iff_getElem?.mp (h.readable input f hf)
    obtain ⟨⟨q, base, hs, -⟩, -⟩ := (h.registered.inputSpec input spec).mp hspec
    unfold InputStore.give at hg
    rw [hs] at hg
    simp only at hg
    split at hg <;> cases hg

/-- The fields that there can be in the instances of a list. -/
def fieldsIn (library : Library) (Q : List String) : List String :=
  Q.flatMap fun q => library.forms.flatMap fun form => form.fields.map fun field =>
    q ++ "." ++ field.name

/-- A list of all the instances that fields can come to belong to: those of the sections that were
there, those of the forms with one instance, and those that are taken up. -/
structure Housed (library : Library) (given : Sections) (Q : List String) (s : Solver) : Prop where
  sections : ∀ q ∈ given.names, q ∈ Q
  single : ∀ form ∈ library.forms, form.name ∈ Q
  forms : ∀ q ∈ s.forms, q ∈ Q

namespace Housed

variable {Q : List String}

/-- What is waited for is a field in one of these instances. -/
theorem waitsIn (h : Housed library given Q s) (hreg : Registered library known s)
    (ha : Awaited s) : WaitsIn (fieldsIn library Q) s := by
  intro d f hw
  obtain ⟨⟨q, field⟩, hf⟩ := Option.isSome_iff_exists.mp (hreg.field (ha d f hw))
  obtain ⟨base, form, hs, hq, hb⟩ := hreg.field?_eq_some_iff.mp hf
  obtain ⟨name, hi⟩ := hreg.instantiated q form hq
  have hname : field.name = base := by simpa using List.find?_some hb
  rw [(Name.split_eq_some_iff.mp hs).1]
  refine List.mem_flatMap.mpr ⟨q, h.forms q (Name.mem_iff_getElem?.mpr ⟨form, hq⟩), ?_⟩
  refine List.mem_flatMap.mpr ⟨form, Library.mem_forms_of_instantiate hi, ?_⟩
  exact List.mem_map.mpr ⟨field, List.mem_of_find?_eq_some hb, by rw [hname]⟩

/-- A field that is needed belongs to one of these instances. -/
theorem of_offer {dep q q' base' : String} (h : Housed library given Q s)
    (hin : InOrder library given rank s) (hq : q ∈ s.forms)
    (ho : Offers library ⟨⟨q, s.values⟩, s.inputs⟩ dep field)
    (hs : Name.split dep = some (q', base')) : q' ∈ Q := by
  cases ho with
  | @own name form base field hi hb =>
    rw [FormName.split_of_parse (Library.instantiate_eq_ok hi).1] at hs
    cases hs
    exact h.forms q hq
  | @single f form base field hi hb =>
    obtain ⟨hp, hf, -⟩ := Library.instantiate_eq_ok hi
    rw [FormName.split_of_parse hp] at hs
    cases hs
    have hname : form.name = q' := by simpa using List.find?_some hf
    exact hname ▸ h.single form (Library.mem_forms_of_instantiate hi)
  | @counted f tag form base field ht hf hn hb =>
    obtain ⟨q'', hq'', htag⟩ := InputStore.mem_instances.mp ht
    obtain ⟨rfl, hp⟩ := InputStore.tagOf?_eq_some htag
    rw [FormName.split_of_parse hp] at hs
    cases hs
    exact (hin.sections _ hq'').elim (h.sections _) (h.forms _)

theorem step (hlib : library.Sound rank) (hin : InOrder library given rank p.solver)
    (h : Housed library given Q p.solver) (hs : Step p p') : Housed library given Q p'.solver := by
  refine ⟨h.sections, h.single, ?_⟩
  cases hs with
  | @wait s t hand name dep hv hy hd hp =>
    obtain ⟨q, field, hq, -, ho⟩ := hin.orderly hlib hy
    intro q' hq'
    rcases hd.mem_forms.mp hq' with hq' | ⟨base, hs, -⟩
    · exact h.forms q' hq'
    · cases ho with
      | unmet ho => exact h.of_offer hin hq ho hs
  | _ => exact h.forms

/-- The instances of the fields stay within the list, whatever comes to be needed. -/
theorem steps (hlib : library.Sound rank) (hin : InOrder library given rank p.solver)
    (h : Housed library given Q p.solver) (hs : Steps p p') :
    Housed library given Q p'.solver := by
  have hboth := hs.preserves
    (I := fun p => InOrder library given rank p.solver ∧ Housed library given Q p.solver)
    (fun _ _ hp hs => ⟨inOrder_step hlib hp.1 hs, hp.2.step hlib hp.1 hs⟩) ⟨hin, h⟩
  exact hboth.2

end Housed

/-- A solve over a sound library comes to an end, and an error that it ends with is excused. -/
theorem Session.solve_ends {σ : Type} (hlib : library.Sound rank)
    (h : Session (initial library (.ofSections given) canAsk) calls s)
    (ask : Question → StateM σ (Option String)) (w : σ) :
    (∃ n, ∀ u, ((s.solve ask n).run w).1 ≠ .unfinished u) ∧
    ∀ n e t, ((s.solve ask n).run w).1 = .failed e t → Excused library given e := by
  have hin := h.inOrder hlib
  obtain ⟨lost, hind⟩ := h.indexed
  constructor
  · let Q := given.names ++ library.forms.map (·.name) ++ s.forms.keys
    have hQ : Housed library given Q s := by
      refine ⟨fun q hq => ?_, fun form hf => ?_, fun q hq => ?_⟩
      · simp [Q, hq]
      · have := List.mem_map_of_mem (f := Form.name) hf
        simp [Q, this]
      · simp [Q, hq]
    refine exists_ending (L := fieldsIn library Q) ⟨lost, hind.balanced⟩ fun n u hu => ?_
    obtain ⟨p, hs, hp⟩ := exists_steps_of_unfinished hu lost
    have hw := (hQ.steps hlib hin hs).waitsIn (inOrder_steps hlib hin hs).registered
      (indexed_steps hind hs).awaited
    rcases hp with rfl | ⟨question, rfl⟩
    · exact hw
    · exact hw
  · intro n e t hf
    have hr : (s.solve ask n).run w = (.failed e t, ((s.solve ask n).run w).2) := Prod.ext hf rfl
    obtain ⟨p, hs, hfail⟩ := exists_fails_of_failed hr lost
    exact excused_of_fails hlib (inOrder_steps hlib hin hs) (indexed_steps hind hs).balanced hfail

end Solver
end TaxReturn
