import TaxReturn.Proofs.Plans

/-! A plan is the selection of those forms of a solution that need filing. Each of them is filed
once, at its place in the order of filing, with the entries that its own fields give. -/
namespace TaxReturn

/-- One form goes before another one in the order of filing. -/
inductive FiledForm.Precedes (a b : FiledForm) : Prop
  | federal {code : String} (ha : a.jurisdiction = .federal) (hb : b.jurisdiction = .state code)
  | state {code code' : String} (ha : a.jurisdiction = .state code)
      (hb : b.jurisdiction = .state code') (h : compare code code' = .lt)
  | sequence (hj : a.jurisdiction = b.jurisdiction) (h : a.sequence < b.sequence)
  | name (hj : a.jurisdiction = b.jurisdiction) (hs : a.sequence = b.sequence)
      (h : Name.order a.form b.form = .lt)

namespace Jurisdiction

variable {a b : Jurisdiction}

theorem order_eq_lt : a.order b = .lt ↔ (∃ code, a = .federal ∧ b = .state code) ∨
    ∃ code code', a = .state code ∧ b = .state code' ∧ compare code code' = .lt := by
  cases a <;> cases b <;> simp [order]

theorem eq_of_order (h : a.order b = .eq) : a = b := by
  cases a <;> cases b
  case state.state => exact congrArg state (Std.LawfulEqOrd.eq_of_compare h)
  all_goals first | rfl | cases h

end Jurisdiction

namespace FiledForm

variable {a b : FiledForm}

theorem precedes_iff : a.Precedes b ↔ a.order b = .lt := by
  have hrefl : a.jurisdiction.order a.jurisdiction = .eq := Std.ReflCmp.compare_self
  rw [order, Ordering.then_eq_lt, Ordering.then_eq_lt, Jurisdiction.order_eq_lt]
  constructor
  · rintro (⟨ha, hb⟩ | ⟨ha, hb, h⟩ | ⟨hj, h⟩ | ⟨hj, hs, h⟩)
    · exact .inl (.inl ⟨_, ha, hb⟩)
    · exact .inl (.inr ⟨_, _, ha, hb, h⟩)
    · exact .inr ⟨hj ▸ hrefl, .inl (Nat.compare_eq_lt.mpr h)⟩
    · exact .inr ⟨hj ▸ hrefl, .inr ⟨Nat.compare_eq_eq.mpr hs, h⟩⟩
  · rintro ((⟨code, ha, hb⟩ | ⟨code, code', ha, hb, h⟩) | ⟨hj, h | ⟨hs, h⟩⟩)
    · exact .federal ha hb
    · exact .state ha hb h
    · exact .sequence (Jurisdiction.eq_of_order hj) (Nat.compare_eq_lt.mp h)
    · exact .name (Jurisdiction.eq_of_order hj) (Nat.compare_eq_eq.mp hs) h

instance : Std.Irrefl FiledForm.Precedes where
  irrefl a h := by
    have hself : a.order a = .eq := Std.ReflCmp.compare_self
    rw [precedes_iff, hself] at h
    cases h

instance : Std.Antisymm FiledForm.Precedes where
  antisymm a b h h' := by
    rw [precedes_iff] at h h'
    have hswap : b.order a = (a.order b).swap := Std.OrientedCmp.eq_swap
    rw [hswap, h] at h'
    cases h'

/-- Forms of different names are put in order strictly. -/
theorem pairwise_mergeSort {l : List FiledForm} (hd : (l.map (·.form)).Nodup) :
    (l.mergeSort fun a b => (a.order b).isLE).Pairwise Precedes := by
  have hperm := List.mergeSort_perm l fun a b => (a.order b).isLE
  have hforms : (l.mergeSort fun a b => (a.order b).isLE).Pairwise fun a b => a.form ≠ b.form :=
    List.pairwise_map.mp ((hperm.map FiledForm.form).nodup_iff.mpr hd)
  refine ((sorted_mergeSort l).and hforms).imp fun {a b} h => ?_
  rw [precedes_iff]
  cases ho : a.order b with
  | lt => rfl
  | eq => exact absurd (form_eq_of_order ho) h.2
  | gt => simp [ho] at h

end FiledForm

theorem Solution.mem_names_iff {sol : Solution} {q : String} :
    q ∈ sol.forms.names ↔ ∃ es, (q, es) ∈ sol.toList := by
  rw [← Sections.map_fst_toList]
  simp [Solution.toList]

namespace PrintedForm

variable {q : String} {encoded : List (String × String)} {fields : List PrintedField}
  {es : List (String × Entry)}

/-- Fields are filled in the order of the paper, and those with nothing to show are passed over. -/
theorem entries_eq_ok_iff : entries q encoded fields = .ok es ↔
    List.Forall₂ (fun fillable e => e.1 = fillable.pdf ∧
      ∃ raw, encoded.lookup fillable.field = some raw ∧ fillable.entry raw = .ok e.2)
      (fields.filter fun fillable => (encoded.lookup fillable.field).isSome) es := by
  induction fields generalizing es with
  | nil => simp [entries, eq_comm]
  | cons fillable fields ih =>
    rw [entries]
    cases hl : encoded.lookup fillable.field with
    | none => simp [hl, ih]
    | some raw =>
      rw [List.filter_cons_of_pos (by simp [hl])]
      simp only [List.forall₂_cons_left_iff, ← ih, hl, Option.some.injEq, exists_eq_left']
      cases he : fillable.entry raw with
      | error fault => simp
      | ok entry =>
        simp only [map_eq_ok, Except.ok.injEq]
        constructor
        · rintro ⟨rest, hrest, rfl⟩
          exact ⟨_, rest, ⟨rfl, rfl⟩, hrest, rfl⟩
        · rintro ⟨⟨pdf, e⟩, rest, ⟨rfl, rfl⟩, hrest, rfl⟩
          exact ⟨rest, hrest, rfl⟩

end PrintedForm

namespace Library

variable {library : Library} {printed : PrintedForms} {values : ValueStore} {q : String}
  {sol : Solution} {filed filed' : FiledForm} {plan all : List FiledForm}
  {es : List (String × String)} {ps : List (String × List (String × String))}

/-- What all the fields of a solution are read as. -/
structure Reads (library : Library) (sol : Solution) (values : ValueStore) : Prop where
  readable : ∀ q base raw, sol.get? q base = some raw →
    ∃ p, library.decodeField q base raw = .ok p
  get?_eq_some : ∀ n v, values.get? n = some v ↔
    ∃ q base raw, sol.get? q base = some raw ∧ library.decodeField q base raw = .ok (n, v)

theorem Reads.unique {values' : ValueStore} (h : library.Reads sol values)
    (h' : library.Reads sol values') : values = values' := by
  apply ValueStore.ext_get?
  intro n
  apply Option.ext
  intro v
  rw [h.get?_eq_some, h'.get?_eq_some]

theorem decode_eq_ok_iff (hn : ∀ q ∈ sol.forms.names, '.' ∉ q.toList) :
    library.decode sol = .ok values ↔ library.Reads sol values := by
  have hpoint : ∀ q base raw, sol.get? q base = some raw → '.' ∉ q.toList := by
    intro q base raw hg
    obtain ⟨es, hm, -⟩ := Sections.exists_mem_toList.mpr hg
    exact hn q (Solution.mem_names_iff.mpr ⟨es, hm⟩)
  constructor
  · intro h
    have hread : ∀ q base raw, sol.get? q base = some raw →
        ∃ p, library.decodeField q base raw = .ok p := fun _ _ _ => exists_decodeField h
    obtain ⟨values', hvalues', hget⟩ := exists_decode hpoint hread
    rw [h] at hvalues'
    cases hvalues'
    exact ⟨hread, hget⟩
  · intro h
    obtain ⟨values', hvalues', hget⟩ := exists_decode hpoint h.readable
    exact (Reads.mk h.readable hget).unique h ▸ hvalues'

/-- A section is filed if its form says so of the values, as the section sees them. -/
def Files (library : Library) (values : ValueStore) (q : String) : Prop :=
  ∃ name form, FormName.parse q = .ok name ∧ library.form? name.name = some form ∧
    form.needsFiling ⟨q, values⟩ = true

/-- What is filed of a section: the form with the fillable fields of its paper, in the order in
which they stand there, whose field the section has. Each shows the text that stands in the section
itself. -/
structure Shows (library : Library) (printed : PrintedForms) (sol : Solution) (name : FormName)
    (form : Form) (filed : FiledForm) : Prop where
  parse : FormName.parse filed.form = .ok name
  known : library.form? name.name = some form
  title : filed.title = form.title
  jurisdiction : filed.jurisdiction = form.jurisdiction
  sequence : filed.sequence = form.sequence
  file : filed.file = (printed.get? name.name).map (·.file)
  entries : List.Forall₂ (fun fillable e => e.1 = fillable.pdf ∧
    ∃ raw, sol.get? filed.form fillable.field = some raw ∧ fillable.entry raw = .ok e.2)
    ((printed.fieldsOf name.name).filter fun fillable =>
      (sol.get? filed.form fillable.field).isSome) filed.entries

theorem file?_eq_some_iff (hm : (q, es) ∈ sol.toList) :
    library.file? printed values q es = .ok (some filed) ↔
      filed.form = q ∧ library.Files values q ∧
        ∃ name form, library.Shows printed sol name form filed := by
  have hlookup : ∀ key, es.lookup key = sol.get? q key := fun key =>
    Sections.lookup_of_mem_toList hm
  constructor
  · intro h
    cases hp : FormName.parse q with
    | error e => simp [file?, hp] at h
    | ok name =>
      cases hf : library.form? name.name with
      | none => simp [file?, hp, hf] at h
      | some form =>
        obtain ⟨hneeds, entries, he, rfl⟩ := (file?_eq_some hp hf).mp h
        rw [PrintedForm.entries_eq_ok_iff] at he
        simp only [hlookup] at he
        exact ⟨rfl, ⟨name, form, hp, hf, hneeds⟩, name, form, hp, hf, rfl, rfl, rfl, rfl, he⟩
  · rintro ⟨rfl, ⟨name, form, hp, hf, hneeds⟩, name', form', hs⟩
    obtain rfl : name = name' := Except.ok.inj (hp.symm.trans hs.parse)
    obtain rfl : form = form' := Option.some.inj (hf.symm.trans hs.known)
    have he := hs.entries
    simp only [← hlookup] at he
    refine (file?_eq_some hp hf).mpr ⟨hneeds, _, PrintedForm.entries_eq_ok_iff.mpr he, ?_⟩
    rw [← hs.title, ← hs.jurisdiction, ← hs.sequence, ← hs.file]

/-- No form is filed for more than one section. -/
theorem forms_sublist (h : library.fileAll printed values ps = .ok all) :
    (all.map (·.form)).Sublist (ps.map Prod.fst) := by
  induction ps generalizing all with
  | nil =>
    cases h
    exact .slnil
  | cons p ps ih =>
    obtain ⟨q, es⟩ := p
    rw [fileAll] at h
    cases hf : library.file? printed values q es with
    | error e => simp [hf] at h
    | ok result =>
      simp only [hf] at h
      obtain ⟨rest, hrest, rfl⟩ := map_eq_ok.mp h
      cases result with
      | none => exact (ih hrest).cons q
      | some filed =>
        rw [Option.toList_some, List.singleton_append, List.map_cons, form_of_file? hf]
        exact (ih hrest).cons_cons q

/-- A plan can be made of a solution: each of its sections has the name of a form, the values are
what its fields are read as, and what is filed of it goes where it has to on paper. -/
structure Plannable (library : Library) (printed : PrintedForms) (sol : Solution)
    (values : ValueStore) : Prop where
  names : ∀ q ∈ sol.forms.names, library.Names q
  reads : library.Reads sol values
  entries : ∀ q ∈ sol.forms.names, library.Files values q →
    ∀ name, FormName.parse q = .ok name → ∀ fillable ∈ printed.fieldsOf name.name, ∀ raw,
      sol.get? q fillable.field = some raw → ∃ e, fillable.entry raw = .ok e

/-- The forms of a solution that are filed, as they are filed. -/
structure Selects (library : Library) (printed : PrintedForms) (sol : Solution)
    (values : ValueStore) (plan : List FiledForm) : Prop where
  forms : ∀ q, q ∈ plan.map (·.form) ↔ q ∈ sol.forms.names ∧ library.Files values q
  once : (plan.map (·.form)).Nodup
  ordered : plan.Pairwise FiledForm.Precedes
  shows : ∀ filed ∈ plan, ∃ name form, library.Shows printed sol name form filed

theorem Plannable.exists_file? (h : library.Plannable printed sol values)
    (hm : (q, es) ∈ sol.toList) :
    ∃ result, library.file? printed values q es = .ok result := by
  have hq : q ∈ sol.forms.names := Solution.mem_names_iff.mpr ⟨es, hm⟩
  obtain ⟨name, form, hp, hf⟩ := h.names q hq
  by_cases hneeds : form.needsFiling ⟨q, values⟩ = true
  · refine Library.exists_file? hp hf fun fillable hfillable raw hraw => ?_
    rw [Sections.lookup_of_mem_toList hm] at hraw
    exact h.entries q hq ⟨name, form, hp, hf, hneeds⟩ name hp fillable hfillable raw hraw
  · exact ⟨none, (file?_eq_none hp hf).mpr (by simpa using hneeds)⟩

theorem Plannable.files_iff (h : library.Plannable printed sol values)
    (hm : (q, es) ∈ sol.toList) : library.Files values q ↔
      ∃ filed, library.file? printed values q es = .ok (some filed) := by
  constructor
  · rintro ⟨name, form, hp, hf, hneeds⟩
    obtain ⟨_ | filed, hresult⟩ := h.exists_file? hm
    · rw [(file?_eq_none hp hf).mp hresult] at hneeds
      cases hneeds
    · exact ⟨filed, hresult⟩
  · rintro ⟨filed, hfiled⟩
    exact ((file?_eq_some_iff hm).mp hfiled).2.1

theorem Plannable.exists_plan (h : library.Plannable printed sol values) :
    ∃ plan, library.plan printed sol = .ok plan ∧ library.Selects printed sol values plan := by
  have hv : library.decode sol = .ok values :=
    (decode_eq_ok_iff fun q hq => by
      obtain ⟨name, form, hp, -⟩ := h.names q hq
      exact FormName.point_notMem_of_parse hp).mpr h.reads
  obtain ⟨all, hall⟩ : ∃ all, library.fileAll printed values sol.toList = .ok all :=
    ⟨_, fileAll_eq_ok.mpr ⟨fun p hp => h.exists_file? hp, rfl⟩⟩
  have hperm := List.mergeSort_perm all fun a b => (a.order b).isLE
  have honce : (all.map (·.form)).Nodup :=
    (forms_sublist hall).nodup (Sections.map_fst_toList ▸ Sections.nodup_names)
  have hfiled : ∀ filed ∈ all.mergeSort fun a b => (a.order b).isLE,
      ∃ p ∈ sol.toList, library.file? printed values p.1 p.2 = .ok (some filed) :=
    fun filed hf => mem_fileAll hall (hperm.mem_iff.mp hf)
  refine ⟨_, by simp only [plan, hv, hall, Except.map], ?_,
    (hperm.map FiledForm.form).nodup_iff.mpr honce, FiledForm.pairwise_mergeSort honce,
    fun filed hf => ?_⟩
  · intro q
    constructor
    · intro hq
      obtain ⟨filed, hf, rfl⟩ := List.mem_map.mp hq
      obtain ⟨p, hp, hfile⟩ := hfiled filed hf
      obtain ⟨hform, hfiles, -⟩ := (file?_eq_some_iff hp).mp hfile
      exact hform ▸ ⟨Solution.mem_names_iff.mpr ⟨_, hp⟩, hfiles⟩
    · rintro ⟨hq, hfiles⟩
      obtain ⟨es, hm⟩ := Solution.mem_names_iff.mp hq
      obtain ⟨filed, hfile⟩ := (h.files_iff hm).mp hfiles
      refine List.mem_map.mpr ⟨filed, hperm.mem_iff.mpr ?_, form_of_file? hfile⟩
      rw [← (fileAll_eq_ok.mp hall).2, List.mem_flatMap]
      exact ⟨_, hm, by simp [hfile, Except.toOption]⟩
  · obtain ⟨p, hp, hfile⟩ := hfiled filed hf
    exact ((file?_eq_some_iff hp).mp hfile).2.2

theorem exists_plannable (h : library.plan printed sol = .ok plan) :
    ∃ values, library.Plannable printed sol values := by
  unfold Library.plan at h
  cases hv : library.decode sol with
  | error e => simp [hv] at h
  | ok values =>
    simp only [hv] at h
    obtain ⟨all, hall, -⟩ := map_eq_ok.mp h
    have hsettled : ∀ q ∈ sol.forms.names, ∃ es result, (q, es) ∈ sol.toList ∧
        library.file? printed values q es = .ok result := by
      intro q hq
      obtain ⟨es, hm⟩ := Solution.mem_names_iff.mp hq
      obtain ⟨result, hresult⟩ := (fileAll_eq_ok.mp hall).1 _ hm
      exact ⟨es, result, hm, hresult⟩
    have hnames : ∀ q ∈ sol.forms.names, library.Names q := by
      intro q hq
      obtain ⟨es, result, -, hresult⟩ := hsettled q hq
      cases hp : FormName.parse q with
      | error e => simp [file?, hp] at hresult
      | ok name =>
        cases hf : library.form? name.name with
        | none => simp [file?, hp, hf] at hresult
        | some form => exact ⟨name, form, hp, hf⟩
    refine ⟨values, hnames, ?_, ?_⟩
    · refine (decode_eq_ok_iff fun q hq => ?_).mp hv
      obtain ⟨name, form, hp, -⟩ := hnames q hq
      exact FormName.point_notMem_of_parse hp
    · rintro q hq ⟨name, form, hp, hf, hneeds⟩ name' hp' fillable hfillable raw hraw
      obtain rfl : name = name' := Except.ok.inj (hp.symm.trans hp')
      obtain ⟨es, _ | filed, hm, hresult⟩ := hsettled q hq
      · rw [(file?_eq_none hp hf).mp hresult] at hneeds
        cases hneeds
      · obtain ⟨-, entries, he, -⟩ := (file?_eq_some hp hf).mp hresult
        refine (PrintedForm.entries_eq_ok.mp he).1 fillable hfillable raw ?_
        rw [Sections.lookup_of_mem_toList hm]
        exact hraw

/-- What is selected tells what is filed of a section, and where it stands. -/
theorem Selects.unique (h : library.Selects printed sol values plan)
    (h' : library.Selects printed sol values all) : plan = all := by
  have hmem : ∀ {plan all filed}, library.Selects printed sol values plan →
      library.Selects printed sol values all → filed ∈ plan → filed ∈ all := by
    intro plan all filed h h' hf
    have hforms := (h.forms filed.form).mp (List.mem_map_of_mem hf)
    obtain ⟨filed', hf', he⟩ := List.mem_map.mp ((h'.forms filed.form).mpr hforms)
    obtain ⟨es, hm⟩ := Solution.mem_names_iff.mp hforms.1
    have hfile := (file?_eq_some_iff hm).mpr ⟨rfl, hforms.2, h.shows filed hf⟩
    have hfile' := (file?_eq_some_iff hm).mpr ⟨he, hforms.2, h'.shows filed' hf'⟩
    rw [hfile] at hfile'
    cases hfile'
    exact hf'
  exact h.ordered.eq_of_mem_iff h'.ordered fun filed => ⟨hmem h h', hmem h' h⟩

/-- A plan is made just where it can be, and it is the selection of what is filed. -/
theorem plan_selects (library : Library) (printed : PrintedForms) (sol : Solution) :
    ((∃ plan, library.plan printed sol = .ok plan) ↔
      ∃ values, library.Plannable printed sol values) ∧
    ∀ plan, library.plan printed sol = .ok plan ↔ ∃ values,
      library.Plannable printed sol values ∧ library.Selects printed sol values plan := by
  refine ⟨⟨?_, ?_⟩, fun plan => ⟨fun h => ?_, ?_⟩⟩
  · rintro ⟨plan, hplan⟩
    exact exists_plannable hplan
  · rintro ⟨values, hvalues⟩
    obtain ⟨plan, hplan, -⟩ := hvalues.exists_plan
    exact ⟨plan, hplan⟩
  · obtain ⟨values, hvalues⟩ := exists_plannable h
    obtain ⟨plan', hplan', hselects⟩ := hvalues.exists_plan
    rw [h] at hplan'
    cases hplan'
    exact ⟨values, hvalues, hselects⟩
  · rintro ⟨values, hvalues, hselects⟩
    obtain ⟨plan', hplan', hselects'⟩ := hvalues.exists_plan
    exact hselects'.unique hselects ▸ hplan'

end Library

end TaxReturn
