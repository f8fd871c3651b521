import TaxReturn.Proofs.Stores
import TaxReturn.Proofs.Solver.Session

/-! What a solver knows comes from its library: the forms taken up, the inputs that can be read,
and the fields to be solved. -/
namespace TaxReturn

namespace Name

variable {α : Type} {t : Name.Table α} {l : List (String × α)} {k : String} {v : α}

theorem getElem?_insertMany :
    (t.insertMany l)[k]? = ((∅ : Name.Table α).insertMany l)[k]?.or t[k]? := by
  simp [Std.ExtTreeMap.getElem?_insertMany_list]

/-- Entries that are inserted from the last one on: the first one under a name stands. -/
theorem getElem?_foldr_insert :
    (l.foldr (fun e t => t.insert e.1 e.2) t)[k]? = (l.lookup k).or t[k]? := by
  induction l with
  | nil => rfl
  | cons e rest ih =>
    rw [List.foldr_cons, getElem?_insert, List.lookup_cons, ih]
    by_cases he : k = e.1
    · simp [he]
    · simp [he, beq_eq_false_iff_ne.mpr he]

theorem mem_of_getElem?_insertMany (h : ((∅ : Name.Table α).insertMany l)[k]? = some v) :
    (k, v) ∈ l := by
  have he : (∅ : Name.Table α)[k]? = none := by simp
  rw [Std.ExtTreeMap.getElem?_insertMany_list, he, Option.or_none] at h
  simp only [Std.LawfulEqCmp.compare_eq_iff_eq, List.findSomeRev?_eq_findSome?_reverse] at h
  obtain ⟨⟨a, b⟩, hm, he⟩ := List.exists_of_findSome?_eq_some h
  split at he
  · rename_i ha
    cases he
    subst ha
    exact List.mem_reverse.mp hm
  · cases he

end Name

namespace Form

variable {form : Form} {name : FormName} {n : String} {spec : InputSpec}

/-- How an input of an instance is read, if the form has it. -/
def inputAs? (form : Form) (name : FormName) (n : String) : Option InputSpec :=
  ((∅ : Name.Table InputSpec).insertMany (form.inputsAs name))[n]?

theorem exists_of_inputAs? (h : form.inputAs? name n = some spec) :
    ∃ base, n = name.qualify base := by
  have hm := Name.mem_of_getElem?_insertMany h
  obtain ⟨input, -, he⟩ := List.mem_map.mp hm
  cases he
  exact ⟨_, rfl⟩

/-- The entry of a field of an instance, if the form has it. -/
def entryAs? (form : Form) (name : FormName) (n : String) : Option FieldEntry :=
  (form.entriesAs name).lookup n

theorem lookup_mapIdx {α : Type} {l : List Field} {key : Field → String} {g : ℕ → α} :
    (l.mapIdx fun i field => (key field, g i)).lookup n =
      (l.findIdx? fun field => key field == n).map g := by
  induction l generalizing g with
  | nil => rfl
  | cons field rest ih =>
    rw [List.mapIdx_cons, List.lookup_cons, List.findIdx?_cons, ih (g := fun i => g (i + 1))]
    by_cases hk : key field = n
    · simp [hk]
    · simp [hk, beq_eq_false_iff_ne.mpr (Ne.symm hk), Function.comp_def]

theorem bind_findIdx? {l : List Field} {p : Field → Bool} :
    ((l.findIdx? p).bind fun i => l[i]?) = l.find? p := by
  induction l with
  | nil => rfl
  | cons field rest ih =>
    rw [List.findIdx?_cons, List.find?_cons, ← ih]
    cases p field
    · simp only [Bool.false_eq_true, if_false, Option.bind_map, Function.comp_def,
        List.getElem?_cons_succ]
    · simp

/-- A form with more than one entry under a name is known by the first of them. -/
theorem entryAs?_eq : form.entryAs? name n =
    (form.fields.findIdx? fun field => name.qualify field.name == n).map
      fun i => ⟨name.text, form, i⟩ :=
  lookup_mapIdx

theorem qualify_injective {base base' : String} (h : name.qualify base = name.qualify base') :
    base = base' := by
  apply String.toList_injective
  simpa [FormName.qualify] using congrArg String.toList h

/-- The entry of a field leads back to the instance and to the field. -/
theorem entryAs?_qualify (form : Form) (name : FormName) (base : String) :
    ((form.entryAs? name (name.qualify base)).bind fun e => e.field?.map (e.owner, ·)) =
      (form.field? base).map (name.text, ·) := by
  have hp : (fun field : Field => name.qualify field.name == name.qualify base) =
      fun field => field.name == base := by
    funext field
    rw [Bool.eq_iff_iff, beq_iff_eq, beq_iff_eq]
    exact ⟨qualify_injective, congrArg _⟩
  rw [entryAs?_eq, hp, field?, ← bind_findIdx?, Option.bind_map, Option.map_bind]
  rfl

theorem exists_of_entryAs? {e : FieldEntry} (h : form.entryAs? name n = some e) :
    ∃ base, n = name.qualify base ∧ e.owner = name.text ∧ e.form = form ∧
      form.fields[e.index]?.map (·.name) = some base := by
  rw [entryAs?_eq, Option.map_eq_some_iff] at h
  obtain ⟨i, hi, rfl⟩ := h
  obtain ⟨hlt, hn, -⟩ := List.findIdx?_eq_some_iff_getElem.mp hi
  refine ⟨form.fields[i].name, (beq_iff_eq.mp hn).symm, rfl, rfl, ?_⟩
  simp [hlt]

theorem exists_of_mem_requiredAs {f : String} (h : f ∈ form.requiredAs name) :
    ∃ base, f = name.qualify base ∧ (form.field? base).isSome := by
  obtain ⟨field, hm, rfl⟩ := List.mem_map.mp h
  refine ⟨field.name, rfl, ?_⟩
  rw [field?, List.find?_isSome]
  exact ⟨field, List.mem_append_left _ hm, by simp⟩

end Form

namespace Library

/-- How an input is read in the instance that it belongs to. -/
def inputSpec? (library : Library) (n : String) : Option InputSpec := do
  let (q, _) ← Name.split n
  match library.instantiate q with
  | .ok (name, form) => form.inputAs? name n
  | .error _ => none

/-- The entry of a field in the instance that it belongs to. -/
def entry? (library : Library) (n : String) : Option FieldEntry := do
  let (q, _) ← Name.split n
  match library.instantiate q with
  | .ok (name, form) => form.entryAs? name n
  | .error _ => none

end Library

namespace Solver

variable {s t : Solver} {p p' : Point} {f dep q n : String} {name : FormName} {form : Form}
  {library : Library} {known : Name.Table InputSpec}

/-- Whether the form that stands before a name is taken up. -/
def Takes (s : Solver) (n : String) : Prop := ∃ q base, Name.split n = some (q, base) ∧ q ∈ s.forms

theorem entry?_of_split {base : String} (hi : library.instantiate q = .ok (name, form))
    (hs : Name.split n = some (q, base)) : library.entry? n = form.entryAs? name n := by
  simp [Library.entry?, hs, hi]

/-- What a solver over a library knows, beside inputs that were known beforehand. -/
structure Registered (library : Library) (known : Name.Table InputSpec) (s : Solver) : Prop where
  source : s.library = library
  instantiated : ∀ (q : String) (form : Form), s.forms[q]? = some form →
    ∃ name, library.instantiate q = .ok (name, form)
  required : ∀ (q : String) (name : FormName) (form : Form), s.forms[q]? = some form →
    library.instantiate q = .ok (name, form) →
    ∀ f ∈ form.requiredAs name, f ∈ s.attempted
  attempted : ∀ f ∈ s.attempted, f ∈ s.fields
  entry : ∀ (n : String) (e : FieldEntry), s.fields[n]? = some e ↔
    s.Takes n ∧ library.entry? n = some e
  inputSpec : ∀ (n : String) (spec : InputSpec), s.inputSpecs[n]? = some spec ↔
    s.Takes n ∧ library.inputSpec? n = some spec
  spec : ∀ n : String, s.inputs.specs[n]? = s.inputSpecs[n]?.or known[n]?

theorem Registered.getElem?_forms {form : Form} (h : Registered library known s) :
    s.forms[q]? = some form ↔ q ∈ s.forms ∧ ∃ name, library.instantiate q = .ok (name, form) := by
  constructor
  · intro hq
    exact ⟨Name.mem_iff_getElem?.mpr ⟨form, hq⟩, h.instantiated q form hq⟩
  · rintro ⟨hm, name, hi⟩
    obtain ⟨form', hq⟩ := Name.mem_iff_getElem?.mp hm
    obtain ⟨name', hi'⟩ := h.instantiated q form' hq
    rw [hi] at hi'
    cases hi'
    exact hq

/-- The fields that are known are those of the forms taken up, under the names of these. -/
theorem Registered.field?_eq_some_iff {field : Field} (h : Registered library known s) :
    s.field? f = some (q, field) ↔ ∃ base form, Name.split f = some (q, base) ∧
      s.forms[q]? = some form ∧ form.field? base = some field := by
  have hentry : ∀ {q' base name form}, Name.split f = some (q', base) →
      s.forms[q']? = some form → library.instantiate q' = .ok (name, form) →
      s.field? f = (form.field? base).map (q', ·) := by
    intro q' base name form hs hq hi
    have hm := Name.mem_iff_getElem?.mpr ⟨form, hq⟩
    have hf : f = name.qualify base := by
      rw [FormName.qualify, Library.text_of_instantiate hi]
      exact (Name.split_eq_some_iff.mp hs).1
    have he : s.fields[f]? = form.entryAs? name f := by
      apply Option.ext
      intro e
      rw [h.entry, entry?_of_split hi hs]
      exact and_iff_right ⟨q', base, hs, hm⟩
    have hq' := form.entryAs?_qualify name base
    rw [Library.text_of_instantiate hi, ← hf, ← he] at hq'
    rw [← hq', field?]
    cases s.fields[f]? with
    | none => rfl
    | some e => cases hfield : e.field? <;> simp [hfield]
  constructor
  · intro hf
    obtain ⟨e, he, -⟩ := Option.bind_eq_some_iff.mp hf
    obtain ⟨⟨q', base, hs, hm⟩, -⟩ := (h.entry f e).mp he
    obtain ⟨form, hq⟩ := Name.mem_iff_getElem?.mp hm
    obtain ⟨name, hi⟩ := h.instantiated q' form hq
    rw [hentry hs hq hi, Option.map_eq_some_iff] at hf
    obtain ⟨field', hb, he⟩ := hf
    cases he
    exact ⟨base, form, hs, hq, hb⟩
  · rintro ⟨base, form, hs, hq, hb⟩
    obtain ⟨name, hi⟩ := h.instantiated q form hq
    rw [hentry hs hq hi, hb]
    rfl

/-- A name that is known leads to its field. -/
theorem Registered.isSome_field? (h : Registered library known s) (hf : f ∈ s.fields) :
    (s.field? f).isSome := by
  obtain ⟨e, he⟩ := Name.mem_iff_getElem?.mp hf
  obtain ⟨-, hl⟩ := (h.entry f e).mp he
  obtain ⟨⟨q, base⟩, hs, hl⟩ := Option.bind_eq_some_iff.mp hl
  simp only at hl
  split at hl
  · rename_i name form hi
    obtain ⟨base', -, -, hform, hi'⟩ := Form.exists_of_entryAs? hl
    obtain ⟨field, hfield, -⟩ := Option.map_eq_some_iff.mp hi'
    simp [field?, he, FieldEntry.field?, hform, hfield]
  · cases hl

theorem Registered.field (h : Registered library known s) (hf : f ∈ s.attempted) :
    (s.field? f).isSome := h.isSome_field? (h.attempted f hf)

/-- No name of a form that is new is known already. -/
theorem Registered.duplicate?_eq_none (h : Registered library known s)
    (hi : library.instantiate q = .ok (name, form)) (hq : q ∉ s.forms) :
    s.duplicate? name form = none := by
  have hnot : ∀ base, ¬ s.Takes (name.qualify base) := by
    rintro base ⟨q', base', hs, hm⟩
    rw [Library.split_of_instantiate hi] at hs
    cases hs
    exact hq hm
  have hinput : ((form.inputsAs name).find? fun input => s.inputSpecs.contains input.1) = none := by
    rw [List.find?_eq_none]
    intro input hm hc
    obtain ⟨spec, -, rfl⟩ := List.mem_map.mp hm
    rw [Std.ExtTreeMap.contains_iff_mem, Name.mem_iff_getElem?] at hc
    obtain ⟨spec', hspec⟩ := hc
    exact hnot _ ((h.inputSpec _ _).mp hspec).1
  have hfield : ((form.entriesAs name).find? fun entry => s.fields.contains entry.1) = none := by
    rw [List.find?_eq_none]
    intro entry hm hc
    obtain ⟨i, hlt, rfl⟩ := List.mem_mapIdx.mp hm
    rw [Std.ExtTreeMap.contains_iff_mem, Name.mem_iff_getElem?] at hc
    obtain ⟨e, he⟩ := hc
    exact hnot _ ((h.entry _ _).mp he).1
  simp only [duplicate?, hinput, hfield]

/-- Every form that there is can be asked for. -/
theorem Registered.addForm_eq (h : Registered library known s)
    (hi : library.instantiate q = .ok (name, form)) :
    s.addForm q = .ok (if q ∈ s.forms then s else s.takeUp name form) := by
  rw [addForm_of_instantiate (h.source ▸ hi)]
  by_cases hq : q ∈ s.forms
  · simp [hq]
  · simp [hq, h.duplicate?_eq_none hi hq]

/-- What is known is the same in two states. -/
structure SameRegistry (s t : Solver) : Prop where
  library : t.library = s.library
  forms : t.forms = s.forms
  fields : t.fields = s.fields
  attempted : t.attempted = s.attempted
  inputSpecs : t.inputSpecs = s.inputSpecs
  specs : t.inputs.specs = s.inputs.specs

theorem Registered.same (h : Registered library known s) (hs : SameRegistry s t) :
    Registered library known t where
  source := hs.library.trans h.source
  instantiated := by
    rw [hs.forms]
    exact h.instantiated
  required := by
    rw [hs.forms, hs.attempted]
    exact h.required
  attempted := by
    rw [hs.attempted, hs.fields]
    exact h.attempted
  entry := by
    simp only [Takes, hs.forms, hs.fields]
    exact h.entry
  inputSpec := by
    simp only [Takes, hs.forms, hs.inputSpecs]
    exact h.inputSpec
  spec := by
    rw [hs.specs, hs.inputSpecs]
    exact h.spec

/-- The inputs that are known are those that were, and those of the form. -/
theorem mem_inputSpecs_takeUp :
    n ∈ (s.takeUp name form).inputSpecs ↔
      n ∈ s.inputSpecs ∨ ∃ spec, form.inputAs? name n = some spec := by
  have hget : (s.takeUp name form).inputSpecs[n]? = (form.inputAs? name n).or s.inputSpecs[n]? := by
    rw [inputSpecs_takeUp, Name.getElem?_insertMany, Form.inputAs?]
  simp only [Name.mem_iff_getElem?, hget]
  cases form.inputAs? name n <;> simp

theorem getElem?_fields_takeUp :
    (s.takeUp name form).fields[n]? = (form.entryAs? name n).or s.fields[n]? := by
  rw [fields_takeUp, Name.getElem?_foldr_insert, Form.entryAs?]

/-- The fields that are known are those that were, and those of the form. -/
theorem mem_fields_takeUp :
    n ∈ (s.takeUp name form).fields ↔ n ∈ s.fields ∨ ∃ e, form.entryAs? name n = some e := by
  simp only [Name.mem_iff_getElem?, getElem?_fields_takeUp]
  cases form.entryAs? name n <;> simp

theorem takes_takeUp (hi : s.library.instantiate q = .ok (name, form)) :
    (s.takeUp name form).Takes n ↔ s.Takes n ∨ ∃ base, Name.split n = some (q, base) := by
  simp only [Takes, forms_takeUp, Std.ExtTreeMap.mem_insert, Std.LawfulEqCmp.compare_eq_iff_eq,
    Library.text_of_instantiate hi]
  constructor
  · rintro ⟨q', base, hs, rfl | hm⟩
    · exact .inr ⟨base, hs⟩
    · exact .inl ⟨q', base, hs, hm⟩
  · rintro (⟨q', base, hs, hm⟩ | ⟨base, hs⟩)
    · exact ⟨q', base, hs, .inr hm⟩
    · exact ⟨q, base, hs, .inl rfl⟩

theorem inputSpec?_of_split {base : String} (hi : library.instantiate q = .ok (name, form))
    (hs : Name.split n = some (q, base)) : library.inputSpec? n = form.inputAs? name n := by
  simp [Library.inputSpec?, hs, hi]

theorem split_of_inputAs? {spec : InputSpec} (hi : library.instantiate q = .ok (name, form))
    (h : form.inputAs? name n = some spec) : ∃ base, Name.split n = some (q, base) := by
  obtain ⟨base, rfl⟩ := Form.exists_of_inputAs? h
  exact ⟨base, Library.split_of_instantiate hi⟩

theorem split_of_entryAs? {e : FieldEntry} (hi : library.instantiate q = .ok (name, form))
    (h : form.entryAs? name n = some e) : ∃ base, Name.split n = some (q, base) := by
  obtain ⟨base, rfl, -⟩ := Form.exists_of_entryAs? h
  exact ⟨base, Library.split_of_instantiate hi⟩

theorem exists_entryAs? {base : String} (name : FormName) (h : (form.field? base).isSome) :
    ∃ e, form.entryAs? name (name.qualify base) = some e := by
  obtain ⟨field, hb⟩ := Option.isSome_iff_exists.mp h
  have hq := form.entryAs?_qualify name base
  rw [hb] at hq
  obtain ⟨e, he, -⟩ := Option.bind_eq_some_iff.mp hq
  exact ⟨e, he⟩

/-- What a form that is taken up brings, beside what was known, is what the library says of the
names that stand behind the forms. -/
theorem own_or_iff_takes {α : Type} {own : Option α} {knows : String → Option α} {v : α}
    (hi : s.library.instantiate q = .ok (name, form))
    (hown : ∀ v, own = some v → ∃ base, Name.split n = some (q, base))
    (hknows : ∀ base, Name.split n = some (q, base) → knows n = own) :
    own = some v ∨ own = none ∧ s.Takes n ∧ knows n = some v ↔
      (s.takeUp name form).Takes n ∧ knows n = some v := by
  rw [takes_takeUp hi]
  constructor
  · rintro (hv | ⟨-, ht, hv⟩)
    · obtain ⟨base, hs⟩ := hown v hv
      exact ⟨.inr ⟨base, hs⟩, (hknows base hs).trans hv⟩
    · exact ⟨.inl ht, hv⟩
  · rintro ⟨ht | ⟨base, hs⟩, hv⟩
    · cases ho : own with
      | none => exact .inr ⟨rfl, ht, hv⟩
      | some w =>
        obtain ⟨base, hs⟩ := hown w ho
        rw [hknows base hs, ho] at hv
        exact .inl hv
    · rw [hknows base hs] at hv
      exact .inl hv

theorem Registered.takeUp (h : Registered library known s)
    (hi : s.library.instantiate q = .ok (name, form)) (hq : q ∉ s.forms) :
    Registered library known (s.takeUp name form) := by
  have hg := takeUp_grows s name form
  have hl := h.source
  have hi' : library.instantiate q = .ok (name, form) := hl ▸ hi
  constructor
  case source => exact hg.library.trans hl
  case instantiated =>
    intro q' form' hf
    rw [forms_takeUp, Name.getElem?_insert, Library.text_of_instantiate hi] at hf
    split at hf
    · rename_i he
      cases hf
      exact ⟨name, he ▸ hl ▸ hi⟩
    · exact h.instantiated q' form' hf
  case required =>
    intro q' name' form' hf hn f hr
    rw [hg.attempted]
    rw [forms_takeUp, Name.getElem?_insert, Library.text_of_instantiate hi] at hf
    split at hf
    · rename_i he
      subst he
      rw [hi'] at hn
      cases hn
      exact .inr hr
    · exact .inl (h.required q' name' form' hf hn f hr)
  case attempted =>
    intro f hf
    rw [mem_fields_takeUp]
    rcases (hg.attempted f).mp hf with ha | hr
    · exact .inl (h.attempted f ha)
    · obtain ⟨base, rfl, hb⟩ := Form.exists_of_mem_requiredAs hr
      exact .inr (exists_entryAs? name hb)
  case entry =>
    intro n e
    rw [getElem?_fields_takeUp, Option.or_eq_some_iff, h.entry]
    exact own_or_iff_takes hi (fun _ => split_of_entryAs? hi) fun _ => entry?_of_split hi'
  case inputSpec =>
    intro n spec
    rw [inputSpecs_takeUp, Name.getElem?_insertMany, Option.or_eq_some_iff, h.inputSpec]
    exact own_or_iff_takes hi (fun _ => split_of_inputAs? hi) fun _ => inputSpec?_of_split hi'
  case spec =>
    intro n
    rw [inputs_takeUp, inputSpecs_takeUp, InputStore.addSpecs, Name.getElem?_insertMany, h.spec,
      Name.getElem?_insertMany (t := s.inputSpecs), Option.or_assoc]

theorem Registered.enqueue (h : Registered library known s) (hf : dep ∈ s.fields) :
    Registered library known (s.enqueue dep) where
  source := enqueue_grows.library.trans h.source
  instantiated := by
    rw [forms_enqueue]
    exact h.instantiated
  required := by
    intro q name form hq hi f hr
    rw [forms_enqueue] at hq
    exact mem_attempted_enqueue.mpr (.inl (h.required q name form hq hi f hr))
  attempted := by
    intro f ha
    rw [fields_enqueue]
    rcases mem_attempted_enqueue.mp ha with ha | rfl
    · exact h.attempted f ha
    · exact hf
  entry := by
    simp only [Takes, forms_enqueue, fields_enqueue]
    exact h.entry
  inputSpec := by
    simp only [Takes, forms_enqueue, inputSpecs_enqueue]
    exact h.inputSpec
  spec := by
    rw [inputs_enqueue, inputSpecs_enqueue]
    exact h.spec

theorem Registered.discovers (h : Registered library known s) (hd : Discovers s dep t) :
    Registered library known t := by
  cases hd with
  | attempted ha => exact h
  | known ha hf => exact h.enqueue hf
  | takenUp ha hs hq hi hf => exact (h.takeUp hi hq).enqueue hf

theorem Registered.misses (h : Registered library known s) (hd : Misses s t) :
    Registered library known t := by
  cases hd with
  | unknown => exact h
  | takenUp hq hi => exact h.takeUp hi hq

theorem registered_addForm (h : Registered library known s) (ha : s.addForm q = .ok t) :
    Registered library known t := by
  obtain ⟨name, form, hi, ⟨-, rfl⟩ | ⟨hq, rfl⟩⟩ := addForm_eq_ok ha
  · exact h
  · exact h.takeUp hi hq

/-- Only a field that is found out about brings anything that is new. -/
theorem step_registry (hs : Step p p') : SameRegistry p.solver p'.solver ∨
    ∃ s dep t, SameRegistry p.solver s ∧ Discovers s dep t ∧ SameRegistry t p'.solver := by
  cases hs with
  | @wait s t hand name dep hv hy hd hp =>
    exact .inr ⟨s.log name, dep, t, ⟨rfl, rfl, rfl, rfl, rfl, rfl⟩, hd,
      ⟨rfl, rfl, rfl, rfl, rfl, rfl⟩⟩
  | accept hc hr ha hw hs hp hg => exact .inl ⟨rfl, rfl, rfl, rfl, rfl, InputStore.specs_give hg⟩
  | _ => exact .inl ⟨rfl, rfl, rfl, rfl, rfl, rfl⟩

theorem registered_step (h : Registered library known p.solver) (hs : Step p p') :
    Registered library known p'.solver := by
  rcases step_registry hs with hsame | ⟨s, dep, t, hsame, hd, hsame'⟩
  · exact h.same hsame
  · exact ((h.same hsame).discovers hd).same hsame'

theorem registered_fails {e : TaxError} (h : Registered library known p.solver)
    (hf : Fails p e t) : Registered library known t := by
  cases hf with
  | @missed s t hand name dep e hv hy hd =>
    have hlog : Registered library known (s.log name) := h.same ⟨rfl, rfl, rfl, rfl, rfl, rfl⟩
    exact hlog.misses (misses_of_discover hd)
  | @cyclic s t hand name dep path hv hy hd hp =>
    have hlog : Registered library known (s.log name) := h.same ⟨rfl, rfl, rfl, rfl, rfl, rfl⟩
    exact hlog.discovers hd
  | _ => exact h.same ⟨rfl, rfl, rfl, rfl, rfl, rfl⟩

theorem registered_initial {inputs : InputStore} {canAsk : Bool} :
    Registered library inputs.specs (initial library inputs canAsk) := by
  constructor <;> simp [initial, Takes]

theorem Session.registered {inputs : InputStore} {canAsk : Bool} {calls : List (Call × Reply)}
    (h : Session (initial library inputs canAsk) calls s) :
    Registered library inputs.specs s := by
  obtain ⟨lost, hs, -⟩ := h.induction (I := fun p => Registered library inputs.specs p.solver)
    registered_initial (fun _ _ _ _ _ hs ha => registered_addForm hs ha)
    (fun _ _ hp hs => registered_step hp hs)
    (fun _ _ hs _ => hs.same ⟨rfl, rfl, rfl, rfl, rfl, rfl⟩)
    (.inr fun _ _ _ hp hf => registered_fails hp hf)
  exact hs

end Solver
end TaxReturn
