import TaxReturn.Proofs.Solver.Loss

/-! The registries of a solver are an exact index of the forms that it has taken up, whatever calls
were made and however they ended. So no name is ever known twice, what is to be evaluated is known,
and the solution can be written at any time. -/
namespace TaxReturn

namespace Form

variable {form : Form} {name : FormName} {n base : String} {spec : InputSpec} {e : FieldEntry}

theorem nodup_of_firstRepeat? {seen names : List String} (h : firstRepeat? seen names = none) :
    names.Nodup ∧ ∀ n ∈ names, n ∉ seen := by
  induction names generalizing seen with
  | nil => simp
  | cons name rest ih =>
    unfold firstRepeat? at h
    split at h
    · cases h
    · rename_i hn
      obtain ⟨hnodup, hseen⟩ := ih h
      simp only [List.mem_cons, not_or] at hseen
      refine ⟨List.nodup_cons.mpr ⟨fun hm => (hseen name hm).1 rfl, hnodup⟩, ?_⟩
      intro n hm
      rcases List.mem_cons.mp hm with rfl | hm
      · exact hn
      · exact (hseen n hm).2

/-- In a sound form no two inputs and no two fields share a name. -/
theorem nodup_of_check (h : form.check = .ok ()) :
    (form.inputs.map (·.name)).Nodup ∧ (form.fields.map (·.name)).Nodup := by
  simp only [check, bind, Except.bind] at h
  split at h
  · cases h
  split at h
  · cases h
  split at h
  · cases h
  rename_i hinputs
  split at h
  · cases h
  rename_i hfields
  exact ⟨(nodup_of_firstRepeat? (Option.eq_none_iff_forall_ne_some.mpr hinputs)).1,
    (nodup_of_firstRepeat? (Option.eq_none_iff_forall_ne_some.mpr hfields)).1⟩

/-- An instance of a sound form has one entry for each field. -/
theorem entryAs?_eq_some_iff (h : (form.fields.map (·.name)).Nodup) :
    form.entryAs? name n = some e ↔ e.owner = name.text ∧ e.form = form ∧
      ∃ field, e.field? = some field ∧ n = name.qualify field.name := by
  rw [entryAs?_eq, Option.map_eq_some_iff]
  constructor
  · rintro ⟨i, hi, rfl⟩
    obtain ⟨hlt, hn, -⟩ := List.findIdx?_eq_some_iff_getElem.mp hi
    exact ⟨rfl, rfl, form.fields[i], by simp [FieldEntry.field?, hlt], (beq_iff_eq.mp hn).symm⟩
  · obtain ⟨owner, form', i⟩ := e
    rintro ⟨rfl, rfl, field, hfield, rfl⟩
    obtain ⟨hlt, rfl⟩ := List.getElem?_eq_some_iff.mp hfield
    have hdistinct := List.pairwise_iff_getElem.mp (List.pairwise_map.mp h)
    refine ⟨i, List.findIdx?_eq_some_iff_getElem.mpr ⟨hlt, by simp, fun j hj => ?_⟩, rfl⟩
    intro hname
    exact hdistinct j i (Nat.lt_trans hj hlt) hlt hj (qualify_injective (beq_iff_eq.mp hname))

/-- An instance of a sound form reads each input in one way. -/
theorem inputAs?_eq_some_iff (h : (form.inputs.map (·.name)).Nodup) :
    form.inputAs? name n = some spec ↔ spec ∈ form.inputs ∧ n = name.qualify spec.name := by
  constructor
  · intro hs
    obtain ⟨input, hm, he⟩ := List.mem_map.mp (Name.mem_of_getElem?_insertMany hs)
    cases he
    exact ⟨hm, rfl⟩
  · rintro ⟨hm, rfl⟩
    refine Std.ExtTreeMap.getElem?_insertMany_list_of_mem (k := name.qualify spec.name)
      Std.ReflCmp.compare_self ?_ (List.mem_map_of_mem hm)
    rw [inputsAs, List.pairwise_map]
    refine (List.pairwise_map.mp h).imp fun {a b} hab hc => hab ?_
    exact qualify_injective (Std.LawfulEqCmp.eq_of_compare hc)

end Form

namespace Library

/-- A library that is put together from sound forms, each name once. -/
inductive Built : Library → Prop
  | empty {year : Nat} : Built ⟨year, []⟩
  | register {library library' : Library} {form : Form} (h : Built library)
      (hc : form.check = .ok ()) (hr : library.register form = .ok library') : Built library'

theorem Built.check {library : Library} (h : library.Built) :
    ∀ form ∈ library.forms, form.check = .ok () := by
  induction h with
  | empty => simp
  | @register library library' form h hc hr ih =>
    unfold Library.register at hr
    split at hr
    · cases hr
    · cases hr
      intro form' hm
      rcases List.mem_append.mp hm with hm | hm
      · exact ih form' hm
      · exact List.mem_singleton.mp hm ▸ hc

end Library

namespace Solver

variable {s t : Solver} {p p' : Point} {f dep q n : String} {m : Move} {library : Library}
  {inputs : InputStore} {known : Name.Table InputSpec} {canAsk : Bool}
  {calls : List (Call × Reply)}

/-- The registries of a solver say exactly which fields and inputs its forms declare. An entry leads
back to its form and field, so it is the only one of them. -/
structure Exact (known : Name.Table InputSpec) (s : Solver) : Prop where
  fields : ∀ (n : String) (e : FieldEntry), s.fields[n]? = some e ↔
    s.forms[e.owner]? = some e.form ∧
      ∃ field, e.field? = some field ∧ n = e.owner ++ "." ++ field.name
  inputSpecs : ∀ (n : String) (spec : InputSpec), s.inputSpecs[n]? = some spec ↔
    ∃ (q : String) (form : Form), s.forms[q]? = some form ∧ spec ∈ form.inputs ∧
      n = q ++ "." ++ spec.name
  /-- An input is read as its form says, or else as was known beforehand. -/
  specs : ∀ n, s.inputs.spec? n = s.inputSpecs[n]?.or known[n]?
  /-- The name of a field or input comes apart into its form and its base. -/
  split : ∀ (q : String) (form : Form) (base : String), s.forms[q]? = some form →
    Name.split (q ++ "." ++ base) = some (q, base)

theorem Registered.exact (h : Registered library known s) (hb : library.Built) :
    Exact known s := by
  have hsplit : ∀ {q form name}, s.forms[q]? = some form →
      library.instantiate q = .ok (name, form) → ∀ base,
      name.qualify base = q ++ "." ++ base ∧ Name.split (q ++ "." ++ base) = some (q, base) := by
    intro q form name hq hi base
    have ht : Name.split (name.qualify base) = some (q, base) := Library.split_of_instantiate hi
    rw [FormName.qualify, Library.text_of_instantiate hi] at ht
    exact ⟨by rw [FormName.qualify, Library.text_of_instantiate hi], ht⟩
  have hsound : ∀ {q name form}, library.instantiate q = .ok (name, form) →
      (form.inputs.map (·.name)).Nodup ∧ (form.fields.map (·.name)).Nodup := fun hi =>
    Form.nodup_of_check (hb.check _ (Library.mem_forms_of_instantiate hi))
  constructor
  case fields =>
    intro n e
    rw [h.entry]
    constructor
    · rintro ⟨⟨q, base, hs, hm⟩, hl⟩
      obtain ⟨form, hq⟩ := Name.mem_iff_getElem?.mp hm
      obtain ⟨name, hi⟩ := h.instantiated q form hq
      rw [entry?_of_split hi hs, Form.entryAs?_eq_some_iff (hsound hi).2] at hl
      obtain ⟨howner, rfl, field, hfield, rfl⟩ := hl
      rw [Library.text_of_instantiate hi] at howner
      rw [howner]
      exact ⟨hq, field, hfield, (hsplit hq hi _).1⟩
    · rintro ⟨hq, field, hfield, rfl⟩
      obtain ⟨name, hi⟩ := h.instantiated _ _ hq
      obtain ⟨hqualify, hs⟩ := hsplit hq hi field.name
      refine ⟨⟨_, _, hs, Name.mem_iff_getElem?.mpr ⟨_, hq⟩⟩, ?_⟩
      rw [entry?_of_split hi hs, Form.entryAs?_eq_some_iff (hsound hi).2]
      exact ⟨(Library.text_of_instantiate hi).symm, rfl, field, hfield, hqualify.symm⟩
  case inputSpecs =>
    intro n spec
    rw [h.inputSpec]
    constructor
    · rintro ⟨⟨q, base, hs, hm⟩, hl⟩
      obtain ⟨form, hq⟩ := Name.mem_iff_getElem?.mp hm
      obtain ⟨name, hi⟩ := h.instantiated q form hq
      rw [inputSpec?_of_split hi hs, Form.inputAs?_eq_some_iff (hsound hi).1] at hl
      obtain ⟨hspec, rfl⟩ := hl
      exact ⟨q, form, hq, hspec, (hsplit hq hi _).1⟩
    · rintro ⟨q, form, hq, hspec, rfl⟩
      obtain ⟨name, hi⟩ := h.instantiated _ _ hq
      obtain ⟨hqualify, hs⟩ := hsplit hq hi spec.name
      refine ⟨⟨q, _, hs, Name.mem_iff_getElem?.mpr ⟨_, hq⟩⟩, ?_⟩
      rw [inputSpec?_of_split hi hs, Form.inputAs?_eq_some_iff (hsound hi).1]
      exact ⟨hspec, hqualify.symm⟩
  case specs => exact h.spec
  case split =>
    intro q form base hq
    obtain ⟨name, hi⟩ := h.instantiated q form hq
    exact (hsplit hq hi base).2

/-- A field that stands in one of the places of a solver, or that is held by its move. -/
inductive Move.Mentions (m : Move) (f : String) : Prop
  | attempted (h : f ∈ m.solver.attempted)
  | unattempted (h : f ∈ m.solver.unattempted)
  | committed (h : m.solver.values.has f)
  | waiting {d : String} (h : f ∈ m.solver.fieldWaits.waiters d)
  | awaited {g : String} (h : g ∈ m.solver.fieldWaits.waiters f)
  | lacking {i : String} (h : f ∈ m.solver.inputWaits.waiters i)
  | left (h : f ∈ m.solver.unimplemented)
  | held (h : f ∈ m.inHand)

/-- What a solver cannot stumble over: a name that is known twice, and a field to be evaluated that
is not known. -/
structure Sure (library : Library) (s : Solver) : Prop where
  adds : ∀ q, s.addForm q =
    (library.instantiate q).map fun x => if q ∈ s.forms then s else s.takeUp x.1 x.2
  fresh : ∀ q what, s.addForm q ≠ .error (.duplicateName what)
  discovers : ∀ dep reader what t, s.discover dep reader ≠ .error (.duplicateName what, t)
  evaluates : ∀ f ∈ s.fields, s.values.has f = false → ∃ q field,
    s.field? f = some (q, field) ∧
      s.evaluate f = (s.log f).settle f (field.evaluate f ⟨⟨q, s.values⟩, s.inputs⟩)

theorem Registered.sure (h : Registered library known s) : Sure library s := by
  have hadds : ∀ q, s.addForm q =
      (library.instantiate q).map fun x => if q ∈ s.forms then s else s.takeUp x.1 x.2 := by
    intro q
    cases hi : library.instantiate q with
    | ok x => exact h.addForm_eq hi
    | error e => simp [addForm, h.source, hi, bind, Except.bind, Except.map]
  have hfresh : ∀ q what, s.addForm q ≠ .error (.duplicateName what) := by
    intro q what ha
    rw [hadds] at ha
    cases hi : library.instantiate q with
    | ok x => simp [hi, Except.map] at ha
    | error e =>
      simp only [hi, Except.map, Except.error.injEq] at ha
      rcases Library.instantiate_eq_error (ha ▸ hi) with
        ⟨_, _, -, he⟩ | ⟨_, -, ⟨-, he⟩ | ⟨_, _, -, -, he⟩⟩ <;> cases he
  refine ⟨hadds, hfresh, ?_, ?_⟩
  · intro dep reader what t hd
    rcases discover_eq_error hd with ⟨-, he⟩ | he | ⟨q, base, -, ha⟩
    · cases he
    · cases he
    · exact hfresh q what ha
  · intro f hf hv
    obtain ⟨⟨q, field⟩, hfield⟩ := Option.isSome_iff_exists.mp (h.isSome_field? hf)
    refine ⟨q, field, hfield, ?_⟩
    obtain ⟨e, he, hx⟩ := Option.bind_eq_some_iff.mp hfield
    obtain ⟨field', hfield', heq⟩ := Option.bind_eq_some_iff.mp hx
    cases heq
    simp only [evaluate, hv, he, hfield', Bool.false_eq_true, if_false]
    rfl

/-- A solution says of every form that is taken up, and of no other, what was committed for it: one
text for each field that is committed, which is its value as the field writes it. -/
structure Encodes (s : Solver) (solution : Solution) : Prop where
  sections : ∀ q, q ∈ solution.forms.names ↔ q ∈ s.forms
  nodup : solution.forms.names.Nodup
  entries : ∀ q base text, solution.get? q base = some text ↔ ∃ v field,
    s.values.get? (q ++ "." ++ base) = some v ∧
      s.field? (q ++ "." ++ base) = some (q, field) ∧ text = field.encode v

/-- The values of fields that are known can be put into a solution, each in its place. -/
theorem Registered.encodeInto (h : Registered library known s) {values : List (String × Value)}
    (solution : Solution) (hknown : ∀ p ∈ values, p.1 ∈ s.fields)
    (hdistinct : values.Pairwise fun p p' => p.1 ≠ p'.1) :
    ∃ sol, s.encodeInto solution values = .ok sol ∧
      (∀ q, q ∈ sol.forms.names ↔ q ∈ solution.forms.names ∨ ∃ p ∈ values, ∃ base,
        Name.split p.1 = some (q, base)) ∧
      (∀ p ∈ values, ∀ q base field, Name.split p.1 = some (q, base) →
        s.field? p.1 = some (q, field) → sol.get? q base = some (field.encode p.2)) ∧
      ∀ q base, (∀ p ∈ values, Name.split p.1 ≠ some (q, base)) →
        sol.get? q base = solution.get? q base := by
  induction values generalizing solution with
  | nil => exact ⟨solution, rfl, by simp, by simp, fun _ _ _ => rfl⟩
  | cons p rest ih =>
    obtain ⟨n, v⟩ := p
    obtain ⟨hrest, hpairwise⟩ := List.pairwise_cons.mp hdistinct
    obtain ⟨⟨q, field⟩, hfield⟩ :=
      Option.isSome_iff_exists.mp (h.isSome_field? (hknown (n, v) List.mem_cons_self))
    obtain ⟨base, form, hs, -, -⟩ := h.field?_eq_some_iff.mp hfield
    obtain ⟨sol, hsol, hnames, hput, hkept⟩ :=
      @ih ⟨solution.forms.set q base (field.encode v)⟩
        (fun p hp => hknown p (List.mem_cons_of_mem _ hp)) hpairwise
    refine ⟨sol, ?_, ?_, ?_, ?_⟩
    · rw [Solver.encodeInto, hfield]
      simp only [Solution.insert, hs, bind, Except.bind]
      exact hsol
    · intro q'
      rw [hnames, Sections.mem_names_set]
      simp only [List.mem_cons, exists_eq_or_imp, hs, Option.some.injEq, Prod.mk.injEq]
      constructor
      · rintro ((rfl | hm) | hr)
        · exact .inr (.inl ⟨base, rfl, rfl⟩)
        · exact .inl hm
        · exact .inr (.inr hr)
      · rintro (hm | ⟨base', rfl, -⟩ | hr)
        · exact .inl (.inr hm)
        · exact .inl (.inl rfl)
        · exact .inr hr
    · intro p hp q' base' field' hs' hf'
      rcases List.mem_cons.mp hp with rfl | hp
      · -- No later value has the same name, so this one stays where it is put.
        rw [hs] at hs'
        cases hs'
        rw [hfield] at hf'
        cases hf'
        rw [hkept q base fun p' hp' hsplit => hrest p' hp' ?_]
        · simp [Solution.get?, Sections.get?_set]
        · rw [(Name.split_eq_some_iff.mp hs).1, (Name.split_eq_some_iff.mp hsplit).1]
      · exact hput p hp q' base' field' hs' hf'
    · intro q' base' hnone
      rw [hkept q' base' fun p hp => hnone p (List.mem_cons_of_mem _ hp)]
      have hne : ¬ (q' = q ∧ base' = base) := by
        rintro ⟨rfl, rfl⟩
        exact hnone (n, v) List.mem_cons_self hs
      simp [Solution.get?, Sections.get?_set, hne]

theorem touch_sections (names : List String) (solution : Solution) :
    (∀ q, q ∈ (names.foldl Solution.touch solution).forms.names ↔
      q ∈ names ∨ q ∈ solution.forms.names) ∧
    ∀ q base, (names.foldl Solution.touch solution).get? q base = solution.get? q base := by
  induction names generalizing solution with
  | nil => simp
  | cons name rest ih =>
    obtain ⟨hnames, hget⟩ := @ih (solution.touch name)
    constructor
    · intro q
      rw [List.foldl_cons, hnames, Solution.touch, Sections.mem_names_touch, List.mem_cons]
      tauto
    · intro q base
      rw [List.foldl_cons, hget]
      exact Sections.get?_touch

/-- The solution can be written whenever all that is committed is known. -/
theorem Registered.exists_solution (h : Registered library known s)
    (hcommitted : ∀ f, s.values.has f → f ∈ s.fields) :
    ∃ solution, s.solution = .ok solution ∧ Encodes s solution := by
  have hmem : ∀ {n v}, (n, v) ∈ s.values.toList ↔ s.values.get? n = some v :=
    Std.ExtTreeMap.mem_toList_iff_getElem?_eq_some
  have hknown : ∀ p ∈ s.values.toList, p.1 ∈ s.fields := fun p hp =>
    hcommitted p.1 (Option.isSome_of_eq_some (hmem.mp hp))
  have hdistinct : s.values.toList.Pairwise fun p p' => p.1 ≠ p'.1 :=
    s.values.table.distinct_keys_toList.imp fun hab he => hab (by simp [he])
  obtain ⟨solution, hsol, hnames, hput, hkept⟩ :=
    h.encodeInto (s.forms.keys.foldl Solution.touch .empty) hknown hdistinct
  obtain ⟨htouched, hempty⟩ := touch_sections s.forms.keys .empty
  refine ⟨solution, hsol, ?_, Sections.nodup_names, ?_⟩
  · intro q
    rw [hnames, htouched]
    simp only [Std.ExtTreeMap.mem_keys]
    constructor
    · rintro ((hm | hm) | ⟨p, hp, base, hs⟩)
      · exact hm
      · simp [Solution.empty, Sections.empty, Sections.names] at hm
      · obtain ⟨e, he⟩ := Name.mem_iff_getElem?.mp (hknown p hp)
        obtain ⟨⟨q', base', hs', hm⟩, -⟩ := (h.entry _ _).mp he
        rw [hs] at hs'
        cases hs'
        exact hm
    · exact fun hm => .inl (.inl hm)
  · intro q base text
    constructor
    · intro hget
      by_cases hs : ∃ p ∈ s.values.toList, Name.split p.1 = some (q, base)
      · obtain ⟨⟨n, v⟩, hp, hs⟩ := hs
        obtain ⟨⟨q', field⟩, hfield⟩ :=
          Option.isSome_iff_exists.mp (h.isSome_field? (hknown _ hp))
        obtain ⟨base', -, hs', -, -⟩ := h.field?_eq_some_iff.mp hfield
        rw [hs] at hs'
        cases hs'
        rw [hput _ hp q base field hs hfield] at hget
        cases hget
        obtain ⟨rfl, -⟩ := Name.split_eq_some_iff.mp hs
        exact ⟨v, field, hmem.mp hp, hfield, rfl⟩
      · rw [hkept q base fun p hp hsplit => hs ⟨p, hp, hsplit⟩, hempty] at hget
        simp [Solution.empty, Solution.get?, Sections.empty, Sections.get?] at hget
    · rintro ⟨v, field, hv, hfield, rfl⟩
      obtain ⟨base', -, hs, -, -⟩ := h.field?_eq_some_iff.mp hfield
      have hs' : Name.split (q ++ "." ++ base) = some (q, base) :=
        Name.split_scoped (Name.split_eq_some_iff.mp hs).2
      exact hput _ (hmem.mpr hv) q base field hs' hfield

/-- A value is committed for a field of a form that is taken up. -/
theorem Registered.exists_field {v : Value} (h : Registered library known p.solver)
    (hbalanced : Balanced p) (hv : p.solver.values.get? f = some v) :
    ∃ q base form field, p.solver.field? f = some (q, field) ∧ Name.split f = some (q, base) ∧
      p.solver.forms[q]? = some form ∧ form.field? base = some field := by
  have hhas : p.solver.values.has f := Option.isSome_of_eq_some hv
  obtain ⟨⟨q, field⟩, hfield⟩ :=
    Option.isSome_iff_exists.mp (h.field (hbalanced.attempted_of_has hhas))
  obtain ⟨base, form, hs, hq, hb⟩ := h.field?_eq_some_iff.mp hfield
  exact ⟨q, base, form, field, hfield, hs, hq, hb⟩

/-- What a solution holds of a form is a value of one of its fields. -/
theorem Registered.exists_written {sol : Solution} {base raw : String}
    (h : Registered library known s) (hsol : Encodes s sol) (hg : sol.get? q base = some raw) :
    ∃ v name form field, s.values.get? (q ++ "." ++ base) = some v ∧
      library.instantiate q = .ok (name, form) ∧ s.forms[q]? = some form ∧
      form.field? base = some field ∧ field.encode v = raw := by
  obtain ⟨v, field, hv, hfield, rfl⟩ := (hsol.entries q base raw).mp hg
  obtain ⟨base', form, hs, hq, hb⟩ := h.field?_eq_some_iff.mp hfield
  have hs' := @Name.split_scoped _ base (Name.split_eq_some_iff.mp hs).2
  rw [hs] at hs'
  cases hs'
  obtain ⟨name, hi⟩ := h.instantiated q form hq
  exact ⟨v, name, form, field, hv, hi, hq, hb, rfl⟩

/-- What is waited for was to be solved. -/
def Awaited (s : Solver) : Prop := ∀ d f, f ∈ s.fieldWaits.waiters d → d ∈ s.attempted

theorem Awaited.grows {new : String → Prop} (h : Awaited s) (hg : Grows s t new) : Awaited t := by
  intro d f hw
  rw [hg.fieldWaits] at hw
  exact (hg.attempted d).mpr (.inl (h d f hw))

theorem awaited_step (h : Awaited p.solver) (hs : Step p p') : Awaited p'.solver := by
  cases hs with
  | @wait s t hand name dep hv hy hd hp =>
    obtain ⟨new, hg, hdep⟩ := hd.grows
    have ht : Awaited t := Awaited.grows (s := s.log name) h hg
    intro d f hw
    rcases Waitlist.mem_waiters_add.mp hw with hw | ⟨rfl, rfl⟩
    · exact ht d f hw
    · exact hdep
  | release =>
    intro d f hw
    simp only [Waitlist.waiters_releaseAll] at hw
    split at hw
    · cases hw
    · exact h d f hw
  | _ => exact h

theorem awaited_fails {e : TaxError} (h : Awaited p.solver) (hf : Fails p e t) : Awaited t := by
  cases hf with
  | @missed s t hand name dep e hv hy hd =>
    obtain ⟨new, hg⟩ := (misses_of_discover hd).grows
    exact Awaited.grows (s := s.log name) h hg
  | @cyclic s t hand name dep path hv hy hd hp =>
    obtain ⟨new, hg, -⟩ := hd.grows
    exact Awaited.grows (s := s.log name) h hg
  | _ => exact h

/-- What holds of the registries and places of a solver wherever it stands. -/
structure Indexed (library : Library) (known : Name.Table InputSpec) (p : Point) : Prop where
  registered : Registered library known p.solver
  balanced : Balanced p
  awaited : Awaited p.solver

theorem indexed_step (h : Indexed library known p) (hs : Step p p') : Indexed library known p' :=
  ⟨registered_step h.registered hs, balanced_step h.balanced hs, awaited_step h.awaited hs⟩

theorem indexed_steps (h : Indexed library known p) (hs : Steps p p') :
    Indexed library known p' :=
  hs.preserves (fun _ _ => indexed_step) h

theorem indexed_fails {e : TaxError} (h : Indexed library known p) (hf : Fails p e t) :
    Indexed library known ⟨t, p.held, none⟩ :=
  ⟨registered_fails h.registered hf, balanced_fails h.balanced hf, awaited_fails h.awaited hf⟩

/-- A state with the same registries and places. -/
theorem Indexed.congr {hand : List String} (h : Indexed library known ⟨s, hand, none⟩)
    (hsame : SameRegistry s t) (hplaces : ∀ f, t.places f = s.places f)
    (hwaits : t.fieldWaits = s.fieldWaits) (hwaiting : t.waitingOn = s.waitingOn) :
    Indexed library known ⟨t, hand, none⟩ where
  registered := h.registered.same hsame
  balanced := by
    constructor
    · intro f
      rw [hplaces, hsame.attempted]
      exact h.balanced.places f
    · rw [hwaiting, hwaits]
      exact h.balanced.waits
  awaited := by
    intro d f hw
    rw [hwaits] at hw
    exact hsame.attempted ▸ h.awaited d f hw

theorem Session.indexed (h : Session (initial library inputs canAsk) calls s) :
    ∃ lost, Indexed library inputs.specs ⟨s, lost, none⟩ := by
  obtain ⟨lost, hs, -⟩ := h.induction (I := Indexed library inputs.specs)
    ⟨registered_initial, balanced_initial, fun d f hw => by simp [initial] at hw⟩
    (fun s t q lost _ hs ha => by
      obtain ⟨new, hg⟩ := addForm_grows ha
      exact ⟨registered_addForm hs.registered ha, balanced_addForm hs.balanced ha,
        hs.awaited.grows hg⟩)
    (fun _ _ hp hs => indexed_step hp hs)
    (fun _ _ hs _ => hs.congr ⟨rfl, rfl, rfl, rfl, rfl, rfl⟩ (fun _ => rfl) rfl rfl)
    (.inr fun _ _ _ hp hf => indexed_fails hp hf)
  exact ⟨lost, hs⟩

/-- Wherever a solve has come to, its registries and places are in order, and it holds fields that
were to be solved. -/
theorem indexed_of_leads {lost : List String} (h : Indexed library known ⟨s, lost, none⟩)
    (hl : Leads (.next ⟨s, .round⟩) m) : ∃ hand, Indexed library known ⟨m.solver, hand, none⟩ ∧
      ∀ f ∈ m.inHand, f ∈ m.solver.attempted := by
  cases from_round s lost hl with
  | @next run hf hs =>
    have hp := indexed_steps h hs
    refine ⟨_, hp, fun f hm => ?_⟩
    obtain ⟨s, stage⟩ := run
    have hheld : ∀ f ∈ stage.hand, f ∈ s.attempted := fun f hm =>
      hp.balanced.attempted_held
        (List.mem_append_right _ (List.mem_append_left _ hm))
    cases stage with
    | attempting =>
      have hm : f ∈ s.unattempted := by
        rw [← Std.ExtTreeSet.mem_toList]
        exact List.mem_of_mem_head? (Option.mem_toList.mp hm)
      exact hp.balanced.attempted_of_unattempted hm
    | _ => exact hheld f hm
  | ask hf hq hs =>
    have hp := indexed_steps h hs
    refine ⟨_, hp.congr (t := Solver.asking _ _) ⟨rfl, rfl, rfl, rfl, rfl, rfl⟩ (fun _ => rfl) rfl
      rfl, ?_⟩
    simp [Move.inHand]
  | finished hs hw =>
    have hp := indexed_steps h hs
    refine ⟨_, hp.congr (t := Solver.finish _) ⟨rfl, rfl, rfl, rfl, rfl, rfl⟩ (fun _ => rfl) rfl
      rfl, ?_⟩
    simp [Move.inHand]
  | failed he =>
    obtain ⟨p', hs, hf⟩ := he
    exact ⟨_, indexed_fails (indexed_steps h hs) hf, by simp [Move.inHand]⟩

/-- Every field that is mentioned anywhere is known. -/
theorem Indexed.mem_fields {hand : List String} (h : Indexed library known ⟨m.solver, hand, none⟩)
    (hheld : ∀ f ∈ m.inHand, f ∈ m.solver.attempted) (hf : m.Mentions f) :
    f ∈ m.solver.fields := by
  apply h.registered.attempted
  cases hf with
  | attempted hf => exact hf
  | unattempted hf => exact h.balanced.attempted_of_unattempted hf
  | committed hf => exact h.balanced.attempted_of_has hf
  | waiting hf => exact h.balanced.attempted_of_fieldWaits hf
  | awaited hf => exact h.awaited _ _ hf
  | lacking hf => exact h.balanced.attempted_of_inputWaits hf
  | left hf => exact h.balanced.attempted_of_unimplemented hf
  | held hf => exact hheld f hf

/-- Over a library of sound forms, whatever calls were made and however they ended, and wherever the
next solve has come to: the registries are an exact index of the forms taken up, every field that is
mentioned is known, no name is found to be known twice and no field to be evaluated is unknown, and
the solution can be written. -/
theorem registries_exact (hb : library.Built)
    (h : Session (initial library inputs canAsk) calls s) (hl : Leads (.next ⟨s, .round⟩) m) :
    Exact inputs.specs m.solver ∧ (∀ f, m.Mentions f → f ∈ m.solver.fields) ∧
      Sure library m.solver ∧ ∃ solution, m.solver.solution = .ok solution ∧
        Encodes m.solver solution := by
  obtain ⟨lost, hs⟩ := h.indexed
  obtain ⟨hand, hm, hheld⟩ := indexed_of_leads hs hl
  have hmem := fun f hf => hm.mem_fields hheld (f := f) hf
  exact ⟨hm.registered.exact hb, hmem, hm.registered.sure,
    hm.registered.exists_solution fun f hv => hmem f (.committed hv)⟩

/-- A form of one amount that is read from a line of another form. -/
def misdirected : Form where
  name := "a"
  required := [Line.carry "1" "b:x.9"]

/-- The other form, which does not have the line. -/
def unhelpful : Form where
  name := "b"
  instancing := .free
  required := [Line.money "2" (pure 0)]

def misdirectedAmount : Library where
  year := 2023
  forms := [misdirected, unhelpful]

theorem built_misdirectedAmount : misdirectedAmount.Built := by
  have hone : Library.Built ⟨2023, [misdirected]⟩ :=
    @Library.Built.register ⟨2023, []⟩ _ misdirected .empty rfl rfl
  exact @Library.Built.register _ _ unhelpful hone rfl rfl

/-- The solve fails after it has taken up the form that does not have the line. -/
theorem registries_exact_misdirected : ∃ s,
    Session (initial misdirectedAmount (.ofSections .empty) false)
      [(.addForm "a", .added), (.solve, .failed (.unknownField "b:x.9" "a.1"))] s ∧
    "b:x" ∈ s.forms ∧ Exact ∅ s ∧ Sure misdirectedAmount s ∧ ∃ solution,
      s.solution = .ok solution ∧ Encodes s solution := by
  obtain ⟨s, hs, hlook⟩ := exists_session (initial misdirectedAmount (.ofSections .empty) false)
    (fun _ => none) 20 [(.addForm "a", .added), (.solve, .failed (.unknownField "b:x.9" "a.1"))]
    (fun s => s.forms.contains "b:x") true (by decide +kernel)
  obtain ⟨hexact, -, hsure, hsolution⟩ := registries_exact built_misdirectedAmount hs .refl
  exact ⟨s, hs, Std.ExtTreeMap.contains_iff_mem.mp hlook, hexact, hsure, hsolution⟩

end Solver

end TaxReturn
