import TaxReturn.Proofs.Decoding
import TaxReturn.Proofs.Filing

/-! What a plan is made of. A plan can be made of a solution whose fields are all read and go where
they have to on paper; it then holds the forms that need filing, each with the entries that its own
fields give. -/
namespace TaxReturn

namespace PrintedField

variable {printed : PrintedField} {kind : ValueKind} {v : Value}

/-- Whether all that a field of the kind can hold has a place in the fillable field. -/
def fits : PrintedField → ValueKind → Bool
  | text _ _, _ | box _ _ _, _ => true
  | button _ _, kind => kind == .boolean
  | choice _ _ exports, .enumeration keys => keys.all fun key => (exports.lookup key).isSome
  | choice _ _ _, _ => false

theorem exists_entry (hf : printed.fits kind) (h : kind.holds v) :
    ∃ e, printed.entry (kind.encode v) = .ok e := by
  cases printed with
  | text pdf field => exact ⟨_, rfl⟩
  | box pdf field value => exact ⟨_, rfl⟩
  | button pdf field =>
    obtain rfl : kind = .boolean := by simpa [fits] using hf
    cases v <;> cases h
    rename_i b
    cases b
    · exact ⟨.checked false, rfl⟩
    · exact ⟨.checked true, rfl⟩
  | choice pdf field exports =>
    cases kind with
    | enumeration keys =>
      cases v with
      | choice key =>
        cases key with
        | none => exact ⟨.text "", rfl⟩
        | some key =>
          have hmem : key ∈ keys := of_decide_eq_true h
          obtain ⟨value, hvalue⟩ := Option.isSome_iff_exists.mp (List.all_eq_true.mp hf key hmem)
          simp only [entry, ValueKind.encode, Option.getD_some, hvalue]
          split
          · exact ⟨_, rfl⟩
          · exact ⟨_, rfl⟩
      | _ => cases h
    | _ => cases hf

end PrintedField

namespace PrintedForm

variable {q : String} {encoded : List (String × String)} {fields : List PrintedField}
  {es : List (String × Entry)} {pdf : String} {e : Entry}

/-- The entries of those fillable fields that can be filled. -/
def entered (encoded : List (String × String)) (fields : List PrintedField) :
    List (String × Entry) :=
  fields.filterMap fun printed => (encoded.lookup printed.field).bind fun raw =>
    (printed.entry raw).toOption.map (printed.pdf, ·)

theorem mem_entered : (pdf, e) ∈ entered encoded fields ↔
    ∃ printed ∈ fields, printed.pdf = pdf ∧
      ∃ raw, encoded.lookup printed.field = some raw ∧ printed.entry raw = .ok e := by
  simp only [entered, List.mem_filterMap, Option.bind_eq_some_iff, Option.map_eq_some_iff,
    Prod.mk.injEq]
  refine exists_congr fun printed => and_congr_right fun _ => ?_
  constructor
  · rintro ⟨raw, hraw, e', he, rfl, rfl⟩
    refine ⟨rfl, raw, hraw, ?_⟩
    cases hp : printed.entry raw <;> simp_all [Except.toOption]
  · rintro ⟨rfl, raw, hraw, he⟩
    exact ⟨raw, hraw, e, by simp [he, Except.toOption], rfl, rfl⟩

/-- Fillable fields are filled one by one, and each that has a field to show has to be filled. -/
theorem entries_eq_ok : entries q encoded fields = .ok es ↔
    (∀ printed ∈ fields, ∀ raw, encoded.lookup printed.field = some raw →
      ∃ e, printed.entry raw = .ok e) ∧ entered encoded fields = es := by
  induction fields generalizing es with
  | nil => simp [entries, entered]
  | cons printed fields ih =>
    rw [entries, List.forall_mem_cons]
    cases hl : encoded.lookup printed.field with
    | none =>
      have hskip : entered encoded (printed :: fields) = entered encoded fields :=
        List.filterMap_cons_none (by simp [hl])
      simp [ih, hskip]
    | some raw =>
      cases hp : printed.entry raw with
      | error fault => simp [hp]
      | ok e =>
        have hcons : entered encoded (printed :: fields) =
            (printed.pdf, e) :: entered encoded fields :=
          List.filterMap_cons_some (by simp [hl, hp, Except.toOption])
        simp only [map_eq_ok, ih, hcons, Option.some.injEq, forall_eq', hp, Except.ok.injEq,
          exists_eq', true_and]
        constructor
        · rintro ⟨es, ⟨hall, rfl⟩, he⟩
          exact ⟨hall, he⟩
        · rintro ⟨hall, he⟩
          exact ⟨_, ⟨hall, rfl⟩, he⟩

end PrintedForm

/-- The fillable fields of a form, if it is printed. -/
def PrintedForms.fieldsOf (printed : PrintedForms) (form : String) : List PrintedField :=
  ((printed.get? form).map (·.fields)).getD []

theorem PrintedForms.fieldsOf_of_mem {printed : PrintedForms} {form : String}
    {fillable : PrintedField} (h : fillable ∈ printed.fieldsOf form) :
    ∃ paper ∈ printed.forms, paper.form = form ∧ printed.fieldsOf form = paper.fields := by
  unfold fieldsOf at h ⊢
  cases hp : printed.get? form with
  | none => simp [hp] at h
  | some paper =>
    exact ⟨paper, List.mem_of_find?_eq_some hp, by simpa using List.find?_some hp, rfl⟩

/-- A line exceeds a limit if it can be read as an amount above it. -/
theorem ValueView.exceeds_iff {view : ValueView} {key : String} {limit : Decimal} :
    view.exceeds key limit ↔ ∃ v d, view.values.get? (view.qualify key) = some v ∧
      v.asDecimal? = some d ∧ limit < d := by
  unfold exceeds decimal get ValueStore.get
  cases view.values.get? (view.qualify key) with
  | none => simp [bind, Except.bind]
  | some v =>
    cases hd : v.asDecimal? <;> simp [hd, bind, Except.bind, Value.expect]

/-- In a section of a solution a field is found by its name. -/
theorem Sections.lookup_of_mem_toList {s : Sections} {q key : String} {es : List (String × String)}
    (h : (q, es) ∈ s.toList) : es.lookup key = s.get? q key := by
  have hget : ∀ value, (key, value) ∈ es → s.get? q key = some value :=
    fun value hm => exists_mem_toList.mp ⟨es, h, hm⟩
  apply Option.ext
  intro value
  rw [lookup_eq_some_iff_mem fun v v' hv hv' =>
    Option.some.inj ((hget v hv).symm.trans (hget v' hv'))]
  refine ⟨hget value, fun hv => ?_⟩
  obtain ⟨es', h', hm⟩ := exists_mem_toList.mpr hv
  exact eq_of_mem_toList h' h ▸ hm

namespace Library

variable {library : Library} {printed : PrintedForms} {values : ValueStore} {q : String}
  {sol : Solution} {filed : FiledForm}

/-- A plan is made of a solution that is read if each of its forms is settled, and holds those that
are filed. -/
theorem exists_plan (hv : library.decode sol = .ok values)
    (hf : ∀ p ∈ sol.toList, ∃ filed, library.file? printed values p.1 p.2 = .ok filed) :
    ∃ plan, library.plan printed sol = .ok plan ∧ ∀ filed, filed ∈ plan ↔
      ∃ p ∈ sol.toList, library.file? printed values p.1 p.2 = .ok (some filed) := by
  obtain ⟨all, hall⟩ : ∃ all, library.fileAll printed values sol.toList = .ok all :=
    ⟨_, fileAll_eq_ok.mpr ⟨hf, rfl⟩⟩
  refine ⟨all.mergeSort fun a b => (a.order b).isLE, by simp [plan, hv, hall, Except.map],
    fun filed => ?_⟩
  rw [(List.mergeSort_perm _ _).mem_iff, ← (fileAll_eq_ok.mp hall).2, List.mem_flatMap]
  refine exists_congr fun p => and_congr_right fun _ => ?_
  cases library.file? printed values p.1 p.2 <;> simp [Except.toOption]

variable {name : FormName} {form : Form} {encoded : List (String × String)}

/-- A form is filed as a form of the library that says that it has to be, with the entries that its
fields give on its paper. -/
theorem file?_eq_some (hp : FormName.parse q = .ok name)
    (hf : library.form? name.name = some form) :
    library.file? printed values q encoded = .ok (some filed) ↔
      form.needsFiling ⟨q, values⟩ = true ∧ ∃ entries,
        PrintedForm.entries q encoded (printed.fieldsOf name.name) = .ok entries ∧
        ⟨q, form.title, form.jurisdiction, form.sequence,
          (printed.get? name.name).map (·.file), entries⟩ = filed := by
  simp only [file?, hp, hf]
  split
  · rename_i hn
    simp only [map_eq_ok, Option.some.injEq, hn, true_and]
    rfl
  · rename_i hn
    simp [hn]

theorem file?_eq_none (hp : FormName.parse q = .ok name)
    (hf : library.form? name.name = some form) :
    library.file? printed values q encoded = .ok none ↔
      form.needsFiling ⟨q, values⟩ = false := by
  simp only [file?, hp, hf]
  split
  · rename_i hn
    simp [map_eq_ok, hn]
  · rename_i hn
    simpa using hn

/-- A form of the library is settled if its fields go where they have to on its paper. -/
theorem exists_file? (hp : FormName.parse q = .ok name) (hf : library.form? name.name = some form)
    (hfit : ∀ fillable ∈ printed.fieldsOf name.name, ∀ raw,
      encoded.lookup fillable.field = some raw → ∃ e, fillable.entry raw = .ok e) :
    ∃ filed, library.file? printed values q encoded = .ok filed := by
  by_cases hn : form.needsFiling ⟨q, values⟩ = true
  · exact ⟨_, (file?_eq_some hp hf).mpr ⟨hn, _, PrintedForm.entries_eq_ok.mpr ⟨hfit, rfl⟩, rfl⟩⟩
  · exact ⟨none, (file?_eq_none hp hf).mpr (by simpa using hn)⟩

end Library
end TaxReturn
