import TaxReturn.Proofs.Keys
import TaxReturn.Proofs.Plans
import TaxReturn.Proofs.Solver.Registry

/-! Names are resolved in two ways. A solver takes up the instances that their forms allow, and a
solution is read by the names of its forms alone, whatever their tags. So every field that a solver
can know is read back, and beside these the fields of instances that a form refuses. -/
namespace TaxReturn

variable {library : Library} {n q base raw : String} {name : FormName} {form : Form}
  {sol : Solution} {values : ValueStore}

theorem ValueKind.decode_empty (kind : ValueKind) : ∃ v, kind.decode "" = .ok v := by
  cases kind <;> exact ⟨_, rfl⟩

theorem PrintedField.entry_empty (printed : PrintedField) : ∃ e, printed.entry "" = .ok e := by
  cases printed <;> exact ⟨_, rfl⟩

namespace Library

/-- A field of an instance that there can be. -/
def Declares (library : Library) (n : String) : Prop :=
  ∃ q base name form, Name.split n = some (q, base) ∧
    library.instantiate q = .ok (name, form) ∧ (form.field? base).isSome

/-- A field of a form under a tag, or without one, that the form refuses. -/
def Misplaces (library : Library) (n : String) : Prop :=
  ∃ q base name form e, Name.split n = some (q, base) ∧ FormName.parse q = .ok name ∧
    library.form? name.name = some form ∧ form.checkTag name.tag = .error e ∧
    (form.field? base).isSome

theorem field?_eq_some_iff {field : Field} : library.field? n = some field ↔
    ∃ q base name form, Name.split n = some (q, base) ∧ FormName.parse q = .ok name ∧
      library.form? name.name = some form ∧ form.field? base = some field := by
  constructor
  · intro h
    obtain ⟨⟨q, base⟩, hs, h⟩ := Option.bind_eq_some_iff.mp h
    cases hp : FormName.parse q with
    | error e => simp [hp] at h
    | ok name =>
      simp only [hp] at h
      obtain ⟨form, hf, h⟩ := Option.bind_eq_some_iff.mp h
      exact ⟨q, base, name, form, hs, hp, hf, h⟩
  · rintro ⟨q, base, name, form, hs, hp, hf, h⟩
    simp [field?, hs, hp, hf, h]

/-- The instance check is all that the two ways differ in. -/
theorem isSome_field?_iff :
    (library.field? n).isSome ↔ library.Declares n ∨ library.Misplaces n := by
  simp only [Option.isSome_iff_exists, field?_eq_some_iff, Declares, Misplaces]
  constructor
  · rintro ⟨field, q, base, name, form, hs, hp, hf, h⟩
    cases hc : form.checkTag name.tag with
    | ok u =>
      exact .inl ⟨q, base, name, form, hs, instantiate_of_parse hp hf hc, field, h⟩
    | error e => exact .inr ⟨q, base, name, form, e, hs, hp, hf, hc, field, h⟩
  · rintro (⟨q, base, name, form, hs, hi, field, h⟩ |
      ⟨q, base, name, form, e, hs, hp, hf, -, field, h⟩)
    · obtain ⟨hp, hf, -⟩ := instantiate_eq_ok hi
      exact ⟨field, q, base, name, form, hs, hp, hf, h⟩
    · exact ⟨field, q, base, name, form, hs, hp, hf, h⟩

theorem not_misplaces_of_declares (h : library.Declares n) : ¬ library.Misplaces n := by
  rintro ⟨q, base, name, form, e, hs, hp, hf, hc, -⟩
  obtain ⟨q', base', name', form', hs', hi, -⟩ := h
  rw [hs] at hs'
  cases hs'
  obtain ⟨hp', hf', hc'⟩ := instantiate_eq_ok hi
  rw [hp] at hp'
  cases hp'
  rw [hf] at hf'
  cases hf'
  rw [hc] at hc'
  cases hc'

/-- A field of a solution that belongs to no form has the solution refused. -/
theorem decode_eq_error (hg : sol.get? q base = some raw)
    (hn : library.field? (q ++ "." ++ base) = none) : ∃ e, library.decode sol = .error e := by
  cases hd : library.decode sol with
  | error e => exact ⟨e, rfl⟩
  | ok values =>
    obtain ⟨p, hp⟩ := exists_decodeField hd hg
    simp [decodeField, hn] at hp

/-- A solution with one field that says nothing. -/
def blank (q base : String) : Solution := ⟨Sections.empty.set q base ""⟩

theorem get?_blank {q' base' : String} :
    (blank q base).get? q' base' = some raw ↔ q' = q ∧ base' = base ∧ raw = "" := by
  have hempty : Sections.empty.get? q' base' = none := rfl
  rw [blank, Solution.get?, Sections.get?_set, hempty]
  split
  · rename_i he
    simp [he, eq_comm]
  · rename_i he
    exact iff_of_false (by simp) fun h => he ⟨h.1, h.2.1⟩

/-- Nothing but its name decides whether such a field is read. -/
theorem exists_decode_blank (hs : Name.split n = some (q, base)) (hn : (library.field? n).isSome) :
    ∃ values, library.decode (blank q base) = .ok values ∧ values.has n := by
  obtain ⟨hn', hpoint⟩ := Name.split_eq_some_iff.mp hs
  obtain ⟨field, hfield⟩ := Option.isSome_iff_exists.mp hn
  obtain ⟨v, hv⟩ := field.kind.decode_empty
  have hd : library.decodeField q base "" = .ok (n, v) := by
    simp only [decodeField, ← hn', hfield, Field.decode, hv]
    rfl
  obtain ⟨values, hvalues, hall⟩ := @exists_decode library (blank q base)
    (fun q' base' raw h => (get?_blank.mp h).1 ▸ hpoint) (fun q' base' raw h => by
      obtain ⟨rfl, rfl, rfl⟩ := get?_blank.mp h
      exact ⟨_, hd⟩)
  refine ⟨values, hvalues, ?_⟩
  rw [ValueStore.has, (hall n v).mpr ⟨q, base, "", get?_blank.mpr ⟨rfl, rfl, rfl⟩, hd⟩]
  rfl

/-- Such a field goes wherever it has to on paper, and it is filed if its form says so. -/
theorem exists_plan_blank (hv : library.decode (blank q base) = .ok values)
    (hp : FormName.parse q = .ok name) (hf : library.form? name.name = some form)
    (printed : PrintedForms) : ∃ plan, library.plan printed (blank q base) = .ok plan ∧
      ((∃ filed ∈ plan, filed.form = q) ↔ form.needsFiling ⟨q, values⟩ = true) := by
  have hmem : ∀ p ∈ (blank q base).toList, p.1 = q := by
    intro p hm
    have hnames : p.1 ∈ (blank q base).forms.names :=
      Sections.map_fst_toList ▸ List.mem_map_of_mem hm
    exact (Sections.mem_names_set.mp hnames).resolve_right
      (by simp [Sections.names, Sections.empty])
  have hfit : ∀ p ∈ (blank q base).toList, ∀ fillable ∈ printed.fieldsOf name.name, ∀ raw,
      p.2.lookup fillable.field = some raw → ∃ e, fillable.entry raw = .ok e := by
    intro p hm fillable _ raw hl
    rw [@Sections.lookup_of_mem_toList _ p.1 _ _ hm] at hl
    obtain ⟨-, -, rfl⟩ := get?_blank.mp hl
    exact fillable.entry_empty
  obtain ⟨plan, hplan, hall⟩ := @exists_plan library printed values (blank q base) hv
    fun p hm => exists_file? (hmem p hm ▸ hp) hf (hfit p hm)
  refine ⟨plan, hplan, ?_, fun hneeds => ?_⟩
  · rintro ⟨filed, hfiled, -⟩
    obtain ⟨p, hm, hfile⟩ := (hall filed).mp hfiled
    rw [hmem p hm] at hfile
    exact ((file?_eq_some hp hf).mp hfile).1
  · obtain ⟨es, hm, -⟩ := Sections.exists_mem_toList.mpr (get?_blank.mpr ⟨rfl, rfl, rfl⟩)
    have hfile := (@file?_eq_some _ printed _ _ _ _ _ _ hp hf).mpr
      ⟨hneeds, _, PrintedForm.entries_eq_ok.mpr ⟨hfit _ hm, rfl⟩, rfl⟩
    exact ⟨_, (hall _).mpr ⟨_, hm, hfile⟩, rfl⟩

/-- The names that solvers can know are those of the instances that there can be. -/
theorem declares_iff_known (inputs : InputStore) (canAsk : Bool) : library.Declares n ↔
    ∃ calls s, Solver.Session (Solver.initial library inputs canAsk) calls s ∧ n ∈ s.fields := by
  constructor
  · rintro ⟨q, base, name, form, hs, hi, hbase⟩
    have hstart := @Solver.registered_initial library inputs canAsk
    obtain ⟨s, ha⟩ : ∃ s, (Solver.initial library inputs canAsk).addForm q = .ok s :=
      ⟨_, hstart.addForm_eq hi⟩
    have hsession := Solver.Session.start.call (.added ha)
    refine ⟨_, s, hsession, ?_⟩
    obtain ⟨field, hfield⟩ := Option.isSome_iff_exists.mp hbase
    have hq := hsession.registered.getElem?_forms.mpr
      ⟨(Solver.mem_forms_of_addForm ha).mpr (.inr rfl), name, hi⟩
    have hn := hsession.registered.field?_eq_some_iff.mpr ⟨base, form, hs, hq, hfield⟩
    obtain ⟨e, he, -⟩ := Option.bind_eq_some_iff.mp hn
    exact Name.mem_iff_getElem?.mpr ⟨e, he⟩
  · rintro ⟨calls, s, hsession, hn⟩
    obtain ⟨⟨q, field⟩, hfield⟩ :=
      Option.isSome_iff_exists.mp (hsession.registered.isSome_field? hn)
    obtain ⟨base, form, hs, hq, hbase⟩ := hsession.registered.field?_eq_some_iff.mp hfield
    obtain ⟨name, hi⟩ := hsession.registered.instantiated q form hq
    exact ⟨q, base, name, form, hs, hi, Option.isSome_iff_exists.mpr ⟨field, hbase⟩⟩

/-- What becomes of a name `n` under which a solution holds a field. -/
structure Resolves (library : Library) (n : String) : Prop where
  /-- What is declared is what a solver of the library can know. -/
  known : ∀ (inputs : InputStore) (canAsk : Bool), library.Declares n ↔
    ∃ calls s, Solver.Session (Solver.initial library inputs canAsk) calls s ∧ n ∈ s.fields
  resolved : (library.field? n).isSome ↔ library.Declares n ∨ library.Misplaces n
  exact : ((library.field? n).isSome ↔ library.Declares n) ↔ ¬ library.Misplaces n
  refused : ∀ (sol : Solution) (q base raw : String), sol.get? q base = some raw →
    q ++ "." ++ base = n → ¬ library.Declares n → ¬ library.Misplaces n →
    ∃ e, library.decode sol = .error e ∧
      ∀ printed, library.plan printed sol = .error (.solution e)
  taken : library.Misplaces n → ∃ q base name form values, Name.split n = some (q, base) ∧
    FormName.parse q = .ok name ∧ library.form? name.name = some form ∧
    library.decode (blank q base) = .ok values ∧ values.has n ∧
    ∀ printed, ∃ plan, library.plan printed (blank q base) = .ok plan ∧
      ((∃ filed ∈ plan, filed.form = q) ↔ form.needsFiling ⟨q, values⟩ = true)

/-- A name is resolved as a solver would know it, unless its form refuses the tag. Then it is read
and filed all the same. -/
theorem resolves_declared (library : Library) (n : String) : library.Resolves n where
  known := declares_iff_known
  resolved := isSome_field?_iff
  exact := by
    rw [isSome_field?_iff, or_iff_left_iff_imp]
    exact ⟨fun h hm => not_misplaces_of_declares (h hm) hm, fun h hm => absurd hm h⟩
  refused := by
    rintro sol q base raw hg rfl hd hm
    have hn : library.field? (q ++ "." ++ base) = none := by
      rw [← Option.not_isSome_iff_eq_none, isSome_field?_iff]
      exact not_or.mpr ⟨hd, hm⟩
    obtain ⟨e, he⟩ := decode_eq_error hg hn
    exact ⟨e, he, fun printed => by simp only [plan, he]⟩
  taken := by
    intro hm
    have hn := isSome_field?_iff.mpr (.inr hm)
    obtain ⟨q, base, name, form, e, hs, hp, hf, -⟩ := hm
    obtain ⟨values, hv, hhas⟩ := exists_decode_blank hs hn
    exact ⟨q, base, name, form, values, hs, hp, hf, hv, hhas, exists_plan_blank hv hp hf⟩

/-- One form, of which there are no tagged instances. -/
def untagged : Library :=
  ⟨2023, [{ name := "a", required := [⟨"1", .integer, pure (.int 0)⟩] }]⟩

/-- No solver takes up `a:x`, and a solution that has it is read and filed. -/
theorem resolved_not_declared :
    untagged.instantiate "a:x" = .error (.invalidInstance "a" (some "x") .notInstanced) ∧
    ¬ ((untagged.field? "a:x.1").isSome ↔ untagged.Declares "a:x.1") ∧
    ∃ sol values plan, Solution.ofText "[a:x]\n1 = 0\n" = .ok sol ∧
      untagged.decode sol = .ok values ∧ values.get? "a:x.1" = some (.int 0) ∧
      untagged.plan .empty sol = .ok plan ∧ plan.map (·.form) = ["a:x"] := by
  have hi : untagged.instantiate "a:x" = .error (.invalidInstance "a" (some "x") .notInstanced) :=
    rfl
  have hsome : (untagged.field? "a:x.1").isSome = true := by decide +kernel
  have hnot : ¬ untagged.Declares "a:x.1" := by
    rintro ⟨q, base, name, form, hs, hi', -⟩
    have hs' : Name.split "a:x.1" = some ("a:x", "1") := by decide +kernel
    rw [hs'] at hs
    cases hs
    rw [hi] at hi'
    cases hi'
  have hlook : ((Solution.ofText "[a:x]\n1 = 0\n").toOption.bind fun sol =>
      (untagged.decode sol).toOption.bind fun values =>
        (untagged.plan .empty sol).toOption.map fun plan =>
          (values.get? "a:x.1", plan.map (·.form))) = some (some (.int 0), ["a:x"]) := by
    decide +kernel
  refine ⟨hi, fun h => hnot (h.mp hsome), ?_⟩
  obtain ⟨sol, hsol, hlook⟩ := Option.bind_eq_some_iff.mp hlook
  obtain ⟨values, hvalues, hlook⟩ := Option.bind_eq_some_iff.mp hlook
  obtain ⟨plan, hplan, hlook⟩ := Option.map_eq_some_iff.mp hlook
  obtain ⟨hvalue, hforms⟩ := Prod.mk.inj hlook
  exact ⟨sol, values, plan, toOption_eq_some_iff.mp hsol, toOption_eq_some_iff.mp hvalues, hvalue,
    toOption_eq_some_iff.mp hplan, hforms⟩

end Library
end TaxReturn
