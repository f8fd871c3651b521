import TaxReturn.Proofs.Decimal.Rational
import TaxReturn.Proofs.Plans
import TaxReturn.Proofs.Year2023.Overflow
import TaxReturn.Proofs.Year2023.Recovered

/-! What is computed over the library of 2023 can be filed: every field goes where its paper has a
place for it. -/
namespace TaxReturn
namespace Year2023

open Solver

variable {s : Solver} {p : Point} {inputs : InputStore} {sol : Solution} {plan : List FiledForm}
  {start : Solver} {calls : List (Call × Reply)} {canAsk : Bool}

/-- The papers have places for all that the fields they show can hold. -/
theorem printed_fits : ∀ paper ∈ printedForms.forms, ∀ form ∈ library.forms,
    form.name = paper.form → ∀ fillable ∈ paper.fields, ∀ field ∈ form.fields,
      field.name = fillable.field → fillable.fits field.kind := by decide

/-- No fillable field of a paper is filled twice. -/
theorem printed_once : ∀ paper ∈ printedForms.forms, (paper.fields.map (·.pdf)).Nodup := by
  decide +kernel

/-- What is filed of a return: Form 1040 if it is taken up, Schedule B if interest is above the
threshold, never a statement, and on every paper the text that the solution has for the line. -/
structure Files (s : Solver) (sol : Solution) (plan : List FiledForm) : Prop where
  individualReturn : (∃ filed ∈ plan, filed.form = "1040") ↔ "1040" ∈ s.forms
  scheduleB : (∃ filed ∈ plan, filed.form = "1040_sb") ↔
    ∃ d, s.values.get? "1040_sb.4" = some (.number d) ∧ 1500 < d.toRat
  entries : ∀ filed ∈ plan, ∃ name, FormName.parse filed.form = .ok name ∧
    name.name ∉ ["w-2", "1099-int", "1099-g"] ∧
    ∀ pdf line, .text pdf line ∈ printedForms.fieldsOf name.name → ∀ e,
      (pdf, e) ∈ filed.entries ↔ ∃ raw, sol.get? filed.form line = some raw ∧ e = .text raw

variable {q : String} {es : List (String × String)} {values : ValueStore} {filed : FiledForm}

/-- A section of a solution belongs to a form that is taken up. -/
theorem Standing.exists_instance (h : Standing inputs p) (hsol : Encodes p.solver sol)
    (hm : (q, es) ∈ sol.toList) : ∃ name form, library.instantiate q = .ok (name, form) ∧
      p.solver.forms[q]? = some form := by
  have hq : q ∈ p.solver.forms := (hsol.sections q).mp (by
    rw [← Sections.map_fst_toList]
    exact List.mem_map_of_mem hm)
  obtain ⟨form, hform⟩ := Name.mem_iff_getElem?.mp hq
  obtain ⟨name, hi⟩ := h.registered.instantiated q form hform
  exact ⟨name, form, hi, hform⟩

/-- What stands in a section of a solution has its place on the paper of the form. -/
theorem Standing.exists_file? (h : Standing inputs p) (hsol : Encodes p.solver sol)
    (hm : (q, es) ∈ sol.toList) (values : ValueStore) :
    ∃ filed, library.file? printedForms values q es = .ok filed := by
  obtain ⟨name, form, hi, hform⟩ := h.exists_instance hsol hm
  obtain ⟨hp, hf, -⟩ := Library.instantiate_eq_ok hi
  refine Library.exists_file? hp hf fun fillable hfillable raw hraw => ?_
  rw [Sections.lookup_of_mem_toList hm] at hraw
  obtain ⟨v, name', form', field, hv, -, hq, hb, rfl⟩ := h.exists_written hsol hraw
  rw [hform] at hq
  cases hq
  obtain ⟨field', hfield', hholds⟩ := h.typed _ v hv
  rw [Library.field?_of_instantiate hi, hb] at hfield'
  cases hfield'
  obtain ⟨hmem, hname⟩ := name_of_field? hb
  obtain ⟨paper, hpaper, hprinted, he⟩ := PrintedForms.fieldsOf_of_mem hfillable
  have hformName : form.name = name.name := by simpa using List.find?_some hf
  exact PrintedField.exists_entry (printed_fits paper hpaper form
    (Library.mem_forms_of_instantiate hi) (hformName.trans hprinted.symm) fillable (he ▸ hfillable)
    field hmem hname) hholds

/-- A form is filed if it is taken up and says that it has to be. -/
theorem Standing.filed_iff {name : FormName} {form : Form} (h : Standing inputs p)
    (hsol : Encodes p.solver sol) (hi : library.instantiate q = .ok (name, form))
    (hmem : ∀ filed, filed ∈ plan ↔
      ∃ e ∈ sol.toList, library.file? printedForms values e.1 e.2 = .ok (some filed)) :
    (∃ filed ∈ plan, filed.form = q) ↔
      q ∈ p.solver.forms ∧ form.needsFiling ⟨q, values⟩ = true := by
  obtain ⟨hp, hf, -⟩ := Library.instantiate_eq_ok hi
  rw [← hsol.sections, ← Sections.map_fst_toList]
  constructor
  · rintro ⟨filed, hfiled, rfl⟩
    obtain ⟨e, he, hfile⟩ := (hmem filed).mp hfiled
    have hform := Library.form_of_file? hfile
    rw [← hform] at hfile
    exact ⟨hform ▸ List.mem_map_of_mem he, ((Library.file?_eq_some hp hf).mp hfile).1⟩
  · rintro ⟨hq, hneeds⟩
    obtain ⟨⟨q, es⟩, he, rfl⟩ := List.mem_map.mp hq
    obtain ⟨filed, hfile⟩ := h.exists_file? hsol he values
    cases filed with
    | none =>
      rw [Library.file?_eq_none hp hf, hneeds] at hfile
      cases hfile
    | some filed => exact ⟨filed, (hmem filed).mpr ⟨_, he, hfile⟩, Library.form_of_file? hfile⟩

theorem Standing.needsFiling_scheduleB (h : Standing inputs p)
    (hget : ∀ f, values.get? f = (p.solver.values.get? f).map Value.trimmed) :
    scheduleB.needsFiling ⟨"1040_sb", values⟩ = true ↔
      ∃ d, p.solver.values.get? "1040_sb.4" = some (.number d) ∧ 1500 < d.toRat := by
  have hthreshold : interestThreshold.toRat = 1500 := by
    norm_num [interestThreshold, Decimal.ofNat, Decimal.toRat, Decimal.units, Decimal.tenTo]
  have hqualify : ValueView.qualify ⟨"1040_sb", values⟩ "4" = "1040_sb.4" := rfl
  change ValueView.exceeds ⟨"1040_sb", values⟩ "4" interestThreshold = true ↔ _
  rw [ValueView.exceeds_iff, hqualify, ← hthreshold]
  simp only [hget, Option.map_eq_some_iff, ← Decimal.lt_iff_toRat]
  constructor
  · rintro ⟨_, d, ⟨v, hv, rfl⟩, hd, hlt⟩
    obtain ⟨field, hfield, hholds⟩ := h.typed _ v hv
    have hkind : (library.field? "1040_sb.4").map (·.kind) = some (.decimal 2) := rfl
    rw [hfield, Option.map_some, Option.some.injEq] at hkind
    rw [hkind] at hholds
    cases v <;> cases hholds
    cases hd
    exact ⟨_, hv, hlt⟩
  · rintro ⟨d, hv, hlt⟩
    exact ⟨_, d, ⟨_, hv, rfl⟩, rfl, hlt⟩

/-- Statements are never filed. -/
theorem not_statement {name : FormName} {form : Form} (hf : library.form? name.name = some form)
    (hneeds : form.needsFiling ⟨q, values⟩ = true) :
    name.name ∉ ["w-2", "1099-int", "1099-g"] := by
  intro hname
  have hstatement :
      form = wageStatement ∨ form = interestStatement ∨ form = governmentStatement := by
    simp only [List.mem_cons, List.not_mem_nil, or_false] at hname
    rcases hname with hname | hname | hname <;> rw [hname] at hf <;> cases hf <;> simp
  rcases hstatement with rfl | rfl | rfl <;> cases hneeds

/-- A text field of a paper shows its line and nothing else. -/
theorem mem_entered_text {form pdf line : String} {e : Entry}
    (h : .text pdf line ∈ printedForms.fieldsOf form) :
    (pdf, e) ∈ PrintedForm.entered es (printedForms.fieldsOf form) ↔
      ∃ raw, es.lookup line = some raw ∧ e = .text raw := by
  obtain ⟨paper, hpaper, -, he⟩ := PrintedForms.fieldsOf_of_mem h
  rw [PrintedForm.mem_entered]
  constructor
  · rintro ⟨fillable, hfillable, hpdf, raw, hraw, hentry⟩
    have hsame : fillable = .text pdf line :=
      List.inj_on_of_nodup_map (printed_once paper hpaper) (he ▸ hfillable) (he ▸ h) hpdf
    subst hsame
    cases hentry
    exact ⟨raw, hraw, rfl⟩
  · rintro ⟨raw, hraw, rfl⟩
    exact ⟨_, h, rfl, raw, hraw, rfl⟩

/-- What is computed can be filed, after any calls. -/
theorem solution_planned (h : Session (initial library inputs canAsk) calls s) :
    ∃ sol plan, s.solution = .ok sol ∧ library.plan printedForms sol = .ok plan ∧
      Files s sol plan := by
  obtain ⟨lost, hs⟩ := standing_session h
  obtain ⟨sol, hsol, henc⟩ := hs.exists_solution
  obtain ⟨values, hvalues, hget⟩ := hs.exists_decode henc
  obtain ⟨plan, hplan, hmem⟩ := Library.exists_plan hvalues
    fun p hp => hs.exists_file? henc hp values
  refine ⟨sol, plan, hsol, hplan, ?_, ?_, ?_⟩
  · have hi : library.instantiate "1040" = .ok (⟨"1040", none⟩, individualReturn) := rfl
    rw [hs.filed_iff henc hi hmem]
    exact and_iff_left rfl
  · have hi : library.instantiate "1040_sb" = .ok (⟨"1040_sb", none⟩, scheduleB) := rfl
    rw [hs.filed_iff henc hi hmem, hs.needsFiling_scheduleB hget]
    refine and_iff_right_of_imp fun ⟨d, hv, _⟩ => ?_
    obtain ⟨q, base, form, field, -, hsplit, hq, -⟩ := hs.exists_field hv
    have hsplit' : Name.split "1040_sb.4" = some ("1040_sb", "4") := rfl
    rw [hsplit] at hsplit'
    cases hsplit'
    exact Name.mem_iff_getElem?.mpr ⟨form, hq⟩
  · intro filed hfiled
    obtain ⟨⟨q, es⟩, he, hfile⟩ := (hmem filed).mp hfiled
    obtain rfl : filed.form = q := Library.form_of_file? hfile
    obtain ⟨name, form, hi, -⟩ := hs.exists_instance henc he
    obtain ⟨hp, hf, -⟩ := Library.instantiate_eq_ok hi
    obtain ⟨hneeds, entries, hentries, hfiled⟩ := (Library.file?_eq_some hp hf).mp hfile
    refine ⟨name, hp, not_statement hf hneeds, fun pdf line hfillable e => ?_⟩
    have hes : PrintedForm.entered es (printedForms.fieldsOf name.name) = filed.entries := by
      rw [(PrintedForm.entries_eq_ok.mp hentries).2, ← hfiled]
    rw [← hes, mem_entered_text hfillable, Sections.lookup_of_mem_toList he]
    rfl

/-- One account with interest above the threshold, and nothing said about foreign accounts. -/
def interest : Sections :=
  (Sections.empty.set "1099-int:a" "box_1" "1600").set "1099-int:a" "box_3" "0"

/-- Schedule B is filed as far as it is computed, and the statement is not. -/
theorem solution_planned_interest : ∃ s,
    Session (initial library (.ofSections interest) false)
      [(.addForm "1040_sb", .added), (.solve, .returned false)] s ∧
    ∃ sol plan, s.solution = .ok sol ∧ library.plan printedForms sol = .ok plan ∧
      Files s sol plan ∧ ∃ filed ∈ plan, filed.form = "1040_sb" := by
  obtain ⟨s, hs, hlook⟩ := exists_session (initial library (.ofSections interest) false)
    (fun _ => none) 100 [(.addForm "1040_sb", .added), (.solve, .returned false)]
    (fun s => s.values.get? "1040_sb.4") (some (.number (.cents 160000))) (by decide +kernel)
  obtain ⟨sol, plan, hsol, hplan, hfiles⟩ := solution_planned hs
  refine ⟨s, hs, sol, plan, hsol, hplan, hfiles, hfiles.scheduleB.mpr ⟨_, hlook, ?_⟩⟩
  norm_num [Decimal.toRat, Decimal.units, Decimal.cents, Decimal.tenTo]

end Year2023
end TaxReturn
