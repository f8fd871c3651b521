import TaxReturn.Proofs.Encoding
import TaxReturn.Proofs.Filing
import TaxReturn.Proofs.Solver.Questions
import TaxReturn.Proofs.Year2023.Standing
import TaxReturn.Report
import TaxReturn.Year2023.Printed

/-! A solution of 2023 that is written to a file. What is read back are the forms of which
something is computed, with all that is computed of them; the others are lost. -/
namespace TaxReturn

namespace Solver

variable {s t : Solver} {σ : Type} {ask : Question → StateM σ (Option String)} {moves : ℕ}
  {w w' : σ} {start : Solver} {calls : List (Call × Reply)} {requests : List String}

/-- Somebody who answers on single lines. -/
def SingleLine (ask : Question → StateM σ (Option String)) : Prop :=
  ∀ question w raw, ((ask question).run w).1 = some raw → '\n' ∉ raw.toList

/-- Answers on single lines leave what is given on single lines. -/
theorem unbroken_solve (hask : SingleLine ask) (hin : s.inputs.Unbroken)
    (h : (s.solve ask moves).run w = (.finished t, w')) : t.inputs.Unbroken := by
  have hturn : ∀ u p p', p.solver.inputs.Unbroken → Turn u p p' → p'.solver.inputs.Unbroken := by
    intro u p p' hp ht q key raw hr
    exact hp q key raw (ht.given.1 ▸ hr)
  have hanswer : ∀ question w s t, s.inputs.Unbroken →
      Answers s question ((ask question).run w).1 t → t.inputs.Unbroken := by
    intro question w s t hs ha
    generalize hraw : ((ask question).run w).1 = raw at ha
    cases ha with
    | refused => exact hs
    | @accepted raw value new inputs hp hg =>
      intro q key r hr
      obtain ⟨q', key', -, ⟨-, rfl⟩ | ⟨-, rfl⟩⟩ := InputStore.give_eq_ok hg
      · exact hs q key r hr
      · simp only [Sections.get?_set] at hr
        split at hr
        · cases hr
          exact hask question w raw hraw
        · exact hs q key r hr
  have hstart : (Move.next ⟨s, .round⟩).Within (fun p => p.solver.inputs.Unbroken)
      (fun _ _ => True) [] := .next (Run.fits_of_stage (by simp)) hin
  have hend := within_follow hturn (fun _ _ _ _ _ => trivial)
    (fun question w s t => hanswer question w s t) hstart h
  cases hend with
  | finished hi hw => exact hi

/-- Forms that are asked for one after another are calls. -/
theorem Chronicle.addForms {l : List Moment} (h : Chronicle start calls l s)
    (ha : s.addForms requests = .ok t) : ∃ calls', Chronicle start calls' l t := by
  induction requests generalizing s calls with
  | nil =>
    cases ha
    exact ⟨calls, h⟩
  | cons q requests ih =>
    rw [Solver.addForms] at ha
    split at ha
    · cases ha
    · rename_i u hu
      exact ih (h.added hu) ha

theorem Session.addForms (h : Session start calls s) (ha : s.addForms requests = .ok t) :
    ∃ calls', Session start calls' t := by
  obtain ⟨l, hl⟩ := h.exists_chronicle
  obtain ⟨calls', hl'⟩ := hl.addForms ha
  exact ⟨calls', hl'.session⟩

theorem unbroken_addForms (hin : s.inputs.Unbroken) (ha : s.addForms requests = .ok t) :
    t.inputs.Unbroken := by
  induction requests generalizing s with
  | nil =>
    cases ha
    exact hin
  | cons q requests ih =>
    rw [Solver.addForms] at ha
    split at ha
    · cases ha
    · rename_i u hu
      obtain ⟨new, hg⟩ := addForm_grows hu
      refine ih (fun q key raw hr => hin q key raw ?_) ha
      rwa [hg.given] at hr

end Solver

theorem InputStore.exists_of_ofText {text : String} {inputs : InputStore}
    (h : ofText text = .ok inputs) :
    ∃ given, Sections.parse text = .ok given ∧ inputs = .ofSections given := by
  unfold ofText at h
  cases hp : Sections.parse text with
  | error e => simp [hp, Except.map] at h
  | ok given =>
    simp only [hp, Except.map, Except.ok.injEq] at h
    exact ⟨given, rfl, h.symm⟩

theorem InputStore.plain_ofText {text : String} {inputs : InputStore}
    (h : ofText text = .ok inputs) : inputs.given.Plain := by
  obtain ⟨given, hp, rfl⟩ := exists_of_ofText h
  exact Sections.plain_of_parse hp

theorem InputStore.unbroken_ofText {text : String} {inputs : InputStore}
    (h : ofText text = .ok inputs) : inputs.Unbroken :=
  fun _ _ _ hr => ((plain_ofText h).value hr).unbroken

namespace Year2023

open Solver

variable {s s₀ : Solver} {p : Point} {f q base : String} {form : Form} {field : Field}
  {inputs : InputStore} {v : Value}

/-- The names of the fields, and the keys that they can hold, can be written as they are. -/
theorem plain_library : ∀ form ∈ library.forms, ∀ field ∈ form.fields,
    Sections.PlainKey field.name ∧ ∀ key ∈ field.kind.keys, OneLine key := by decide

/-- The fields of text are copies of inputs, or empty. -/
theorem legible_library : ∀ form ∈ library.forms, ∀ field ∈ form.fields,
    field.kind.isText = true → field.compute.Legible := by
  have hall : ∀ field ∈ (library.forms.flatMap (·.fields)).filter (·.kind.isText),
      field.compute.Legible := by
    have hfields : (library.forms.flatMap (·.fields)).filter (·.kind.isText) =
        [Line.echo "first_name" .text "first_name", Line.echo "last_name" .text "last_name",
          Line.echo "ssn" .ssn "ssn", ofSpouse "spouse_first_name" .text,
          ofSpouse "spouse_last_name" .text, ofSpouse "spouse_ssn" .ssn,
          ofDeposit "35b" .text "routing_number", ofDeposit "35d" .text "account_number",
          ⟨"19b", .ssn, alimonyRecipient⟩, Line.echo "employer" .text "employer",
          Line.echo "payer" .text "payer", Line.echo "payer" .text "payer"] := rfl
    have hspouse : ∀ name kind, (ofSpouse name kind).compute.Legible :=
      fun _ _ => .bind fun _ => .ite Compute.legible_input Compute.legible_empty
    have hdeposit : ∀ name kind input, (ofDeposit name kind input).compute.Legible :=
      fun _ _ _ => .bind fun _ => .ite Compute.legible_empty Compute.legible_input
    have hrecipient : alimonyRecipient.Legible :=
      .bind fun _ => .ite Compute.legible_empty Compute.legible_input
    rw [hfields]
    simp only [List.forall_mem_cons]
    exact ⟨Compute.legible_input, Compute.legible_input, Compute.legible_input, hspouse _ _,
      hspouse _ _, hspouse _ _, hdeposit _ _ _, hdeposit _ _ _, hrecipient,
      Compute.legible_input, Compute.legible_input, Compute.legible_input, by simp⟩
  intro form hform field hfield hk
  exact hall field (List.mem_filter.mpr ⟨List.mem_flatMap.mpr ⟨form, hform, hfield⟩, hk⟩)

theorem name_of_field? (h : form.field? base = some field) :
    field ∈ form.fields ∧ field.name = base :=
  ⟨List.mem_of_find?_eq_some h, by simpa using List.find?_some h⟩

theorem Standing.oneLine_encode (h : Standing inputs p) (hin : p.solver.inputs.Unbroken)
    (hv : p.solver.values.get? f = some v) (hs : Name.split f = some (q, base))
    (hq : p.solver.forms[q]? = some form) (hb : form.field? base = some field) :
    OneLine (field.encode v) := by
  obtain ⟨name, hi⟩ := h.registered.instantiated q form hq
  have hform := Library.mem_forms_of_instantiate hi
  obtain ⟨hfield, -⟩ := name_of_field? hb
  by_cases hk : field.kind.isText = true
  · have hf : f ≠ deductionTotal := by
      rintro rfl
      have hs' := split_deductionTotal
      have hi' : library.instantiate "1040_s1" = .ok (⟨"1040_s1", none⟩, scheduleOne) := rfl
      have hb' : scheduleOne.field? "13" = some (Line.totalOf "13" "8889" "13") := rfl
      rw [hs] at hs'
      cases hs'
      rw [hi] at hi'
      cases hi'
      rw [hb] at hb'
      cases hb'
      cases hk
    have he := (Library.evaluates_iff hs hi hb).mp (h.current hv hf)
    exact Field.oneLine_encode hk (legible_library form hform field hfield hk) hin he
  · obtain ⟨inputs, values, he, -⟩ := h.traces.committed f v hv
    obtain ⟨w, -, hcanon⟩ := Field.evaluate_eq_ok.mp ((Library.evaluates_iff hs hi hb).mp he)
    exact ValueKind.oneLine_encode (by simpa using hk) (plain_library form hform field hfield).2
      (ValueKind.holds_of_canonicalize hcanon)

/-- A value is committed for a field of a form that is taken up. -/
theorem Standing.exists_field (h : Standing inputs p) (hv : p.solver.values.get? f = some v) :
    ∃ q base form field, p.solver.field? f = some (q, field) ∧ Name.split f = some (q, base) ∧
      p.solver.forms[q]? = some form ∧ form.field? base = some field :=
  h.registered.exists_field h.balanced hv

/-- What a solution holds of a form is a value of one of its fields. -/
theorem Standing.exists_written {sol : Solution} {raw : String} (h : Standing inputs p)
    (hsol : Encodes p.solver sol) (hg : sol.get? q base = some raw) : ∃ v name form field,
      p.solver.values.get? (q ++ "." ++ base) = some v ∧ library.instantiate q = .ok (name, form) ∧
      p.solver.forms[q]? = some form ∧ form.field? base = some field ∧ field.encode v = raw :=
  h.registered.exists_written hsol hg

/-- What is computed can be written as it is. -/
theorem Standing.plain_toSections {sol : Solution} (h : Standing inputs p)
    (hin : p.solver.inputs.Unbroken) (hsol : Encodes p.solver sol) : sol.toSections.Plain := by
  have hentry : ∀ {q base text}, sol.toSections.get? q base = some text →
      Sections.PlainKey base ∧ OneLine text := by
    intro q base text ht
    rw [Solution.get?_toSections] at ht
    obtain ⟨v, name, form, field, hv, hi, hq, hb, rfl⟩ := h.exists_written hsol ht
    have hs := @FormName.split_of_parse _ _ base (Library.instantiate_eq_ok hi).1
    obtain ⟨hmem, rfl⟩ := name_of_field? hb
    exact ⟨(plain_library form (Library.mem_forms_of_instantiate hi) field hmem).1,
      h.oneLine_encode hin hv hs hq hb⟩
  refine ⟨fun q hq => ?_, fun h => (hentry h).1, fun h => (hentry h).2⟩
  obtain ⟨base, text, ht⟩ := Solution.mem_names_toSections.mp hq
  obtain ⟨-, name, form, -, -, hi, -⟩ := h.exists_written hsol ht
  obtain ⟨hne, hblank⟩ := FormName.unblank_of_parse (Library.instantiate_eq_ok hi).1
  exact ⟨hne, .of_unblank hblank⟩

/-- Something is written of a form if a field of it is committed. -/
theorem Standing.exists_text_iff {sol : Solution} (h : Standing inputs p)
    (hsol : Encodes p.solver sol) (hq : q ∈ p.solver.forms) :
    (∃ base text, sol.get? q base = some text) ↔ ∃ base, p.solver.values.has (q ++ "." ++ base) := by
  constructor
  · rintro ⟨base, text, ht⟩
    obtain ⟨v, field, hv, -, -⟩ := (hsol.entries q base text).mp ht
    exact ⟨base, by simp [ValueStore.has, hv]⟩
  · rintro ⟨base, hhas⟩
    obtain ⟨v, hv⟩ := Option.isSome_iff_exists.mp hhas
    obtain ⟨q', base', form', field, hfield, hs, -, -⟩ := h.exists_field hv
    obtain ⟨form, hf⟩ := Name.mem_iff_getElem?.mp hq
    obtain ⟨name, hi⟩ := h.registered.instantiated q form hf
    rw [FormName.split_of_parse (Library.instantiate_eq_ok hi).1] at hs
    cases hs
    exact ⟨base, field.encode v, (hsol.entries q base _).mpr ⟨v, field, hv, hfield, rfl⟩⟩

theorem Standing.exists_solution (h : Standing inputs p) :
    ∃ sol, p.solver.solution = .ok sol ∧ Encodes p.solver sol :=
  h.registered.exists_solution fun f hf =>
    h.registered.attempted f (h.balanced.attempted_of_has hf)

/-- A solve whose inputs come from a file and from answers on single lines has a solution, and none
of its inputs spans lines. -/
theorem exists_solution_of_solve {σ : Type} {ask : Question → StateM σ (Option String)} {moves : ℕ}
    {w w' : σ} {text : String} {canAsk : Bool} {requests : List String}
    (ht : InputStore.ofText text = .ok inputs)
    (ha : (initial library inputs canAsk).addForms requests = .ok s₀) (hask : SingleLine ask)
    (hr : (s₀.solve ask moves).run w = (.finished s, w')) : ∃ lost sol,
      Standing inputs ⟨s, lost, none⟩ ∧ s.inputs.Unbroken ∧ s.solution = .ok sol ∧
        Encodes s sol := by
  obtain ⟨calls, hadded⟩ := Session.start.addForms ha
  obtain ⟨lost, hs⟩ := standing_session (hadded.call (.returned hr))
  obtain ⟨sol, hsol, henc⟩ := hs.exists_solution
  exact ⟨lost, sol, hs,
    unbroken_solve hask (unbroken_addForms (InputStore.unbroken_ofText ht) ha) hr, hsol, henc⟩

/-- A solve over the library of 2023 whose inputs come from a file and from answers on single lines:
its solution is read back from its text without the forms of which nothing is computed. It comes
back as it is exactly if something is computed of every form that is taken up, and what is filed of
what comes back is what is filed of the solution but for the forms that are lost. -/
theorem reloaded {σ : Type} {ask : Question → StateM σ (Option String)} {moves : ℕ} {w w' : σ}
    {text : String} {canAsk : Bool} {requests : List String}
    (ht : InputStore.ofText text = .ok inputs)
    (ha : (initial library inputs canAsk).addForms requests = .ok s₀) (hask : SingleLine ask)
    (hr : (s₀.solve ask moves).run w = (.finished s, w')) : ∃ sol, s.solution = .ok sol ∧
      Solution.ofText sol.text = .ok ⟨sol.toSections⟩ ∧
      (Solution.ofText sol.text = .ok sol ↔
        ∀ q ∈ s.forms, ∃ base, s.values.has (q ++ "." ++ base)) ∧
      ∀ printed, library.plan printed ⟨sol.toSections⟩ = (library.plan printed sol).map
        (·.filter fun filed => decide (filed.form ∈ sol.toSections.names)) := by
  obtain ⟨lost, sol, hs, hin, hsol, henc⟩ := exists_solution_of_solve ht ha hask hr
  have htext := Solution.ofText_text (hs.plain_toSections hin henc)
  refine ⟨sol, hsol, htext, ?_, fun printed => Library.plan_toSections fun q hq => ?_⟩
  · rw [htext, Except.ok.injEq, Solution.eq_toSections_iff]
    constructor
    · intro h q hq
      exact (hs.exists_text_iff henc hq).mp (h q ((henc.sections q).mpr hq))
    · intro h q hq
      have hq := (henc.sections q).mp hq
      exact (hs.exists_text_iff henc hq).mpr (h q hq)
  · obtain ⟨form, hf⟩ := Name.mem_iff_getElem?.mp ((henc.sections q).mp hq)
    obtain ⟨name, hi⟩ := hs.registered.instantiated q form hf
    obtain ⟨hp, hform, -⟩ := Library.instantiate_eq_ok hi
    exact ⟨name, form, hp, hform⟩

/-- The solver after a solve whose inputs come from a text and from somebody who answers, with what
is left of whoever that is. -/
def solveText? {σ : Type} (text : String) (canAsk : Bool) (requests : List String)
    (ask : Question → StateM σ (Option String)) (moves : ℕ) (w : σ) : Option (Solver × σ) := do
  let inputs ← (InputStore.ofText text).toOption
  let s₀ ← ((initial library inputs canAsk).addForms requests).toOption
  match (s₀.solve ask moves).run w with
  | (.finished s, w') => some (s, w')
  | _ => none

theorem exists_solve_run {σ α : Type} (text : String) (canAsk : Bool) (requests : List String)
    (ask : Question → StateM σ (Option String)) (moves : ℕ) (w : σ) (look : Solver → α) (seen : α)
    (h : (solveText? text canAsk requests ask moves w).map (fun r => look r.1) = some seen) :
    ∃ inputs s₀ s w', InputStore.ofText text = .ok inputs ∧
      (initial library inputs canAsk).addForms requests = .ok s₀ ∧
      (s₀.solve ask moves).run w = (.finished s, w') ∧ look s = seen := by
  obtain ⟨⟨s, w'⟩, hs, hlook⟩ := Option.map_eq_some_iff.mp h
  obtain ⟨inputs, hin, hs⟩ := Option.bind_eq_some_iff.mp hs
  obtain ⟨s₀, ha, hs⟩ := Option.bind_eq_some_iff.mp hs
  refine ⟨inputs, s₀, s, w', toOption_eq_some_iff.mp hin, toOption_eq_some_iff.mp ha, ?_, hlook⟩
  split at hs
  · rename_i u v hu
    cases hs
    exact hu
  · cases hs

/-- A solve with answers that depend on the question alone. -/
theorem exists_solve {α : Type} (text : String) (canAsk : Bool) (requests : List String)
    (answers : Question → Option String) (moves : ℕ) (look : Solver → α) (seen : α)
    (h : (solveText? text canAsk requests (fun question => pure (answers question)) moves ()).map
      (fun r => look r.1) = some seen) :
    ∃ inputs s₀ s, InputStore.ofText text = .ok inputs ∧
      (initial library inputs canAsk).addForms requests = .ok s₀ ∧
      (s₀.solve (m := StateM Unit) (fun question => pure (answers question)) moves).run () =
        (.finished s, ()) ∧ look s = seen := by
  obtain ⟨inputs, s₀, s, w', hrun⟩ := exists_solve_run text canAsk requests
    (fun question => pure (answers question)) moves () look seen h
  exact ⟨inputs, s₀, s, hrun⟩

/-- A form of which one line is computed is kept. -/
theorem reloaded_distributions : ∃ inputs s₀ s,
    InputStore.ofText "[8889:taxpayer]\ndistributions = 0\n" = .ok inputs ∧
    (initial library inputs false).addForms ["8889:taxpayer"] = .ok s₀ ∧
    SingleLine (σ := Unit) (fun _ => pure none) ∧
    (s₀.solve (m := StateM Unit) (fun _ => pure none) 100).run () = (.finished s, ()) ∧
    ∃ sol, s.solution = .ok sol ∧ Solution.ofText sol.text = .ok sol ∧
      sol.get? "8889:taxpayer" "14a" = some "0.00" ∧ sol.get? "8889:taxpayer" "13" = none := by
  obtain ⟨inputs, s₀, s, hin, ha, hr, hlook⟩ := exists_solve
    "[8889:taxpayer]\ndistributions = 0\n" false ["8889:taxpayer"] (fun _ => none) 100
    (fun s => (s.forms.keys, s.values.has "8889:taxpayer.14a", s.solution.toOption.map fun sol =>
      (sol.get? "8889:taxpayer" "14a", sol.get? "8889:taxpayer" "13")))
    (["8889:taxpayer"], true, some (some "0.00", none)) (by decide +kernel)
  simp only [Prod.mk.injEq] at hlook
  obtain ⟨hforms, hhas, htext⟩ := hlook
  have hask : SingleLine (σ := Unit) (fun _ => pure none) := by
    intro question w raw he
    cases he
  obtain ⟨sol, hsol, -, hkept, -⟩ := reloaded hin ha hask hr
  refine ⟨inputs, s₀, s, hin, ha, hask, hr, sol, hsol, hkept.mpr fun q hq => ?_, ?_⟩
  · rw [← Std.ExtTreeMap.mem_keys, hforms, List.mem_singleton] at hq
    exact ⟨"14a", hq ▸ hhas⟩
  · simpa [hsol, Except.toOption] using htext

/-- An account of which nothing is known is to be filed, and it is lost with the text. -/
theorem not_reloaded_unanswered : ∃ inputs s₀ s sol,
    InputStore.ofText "" = .ok inputs ∧
    (initial library inputs false).addForms ["8889:taxpayer"] = .ok s₀ ∧
    SingleLine (σ := Unit) (fun _ => pure none) ∧
    (s₀.solve (m := StateM Unit) (fun _ => pure none) 100).run () = (.finished s, ()) ∧
    s.solution = .ok sol ∧ "8889:taxpayer" ∈ s.forms ∧
    Solution.ofText sol.text ≠ .ok sol ∧ sol.text = "" ∧
    (∃ plan, library.plan printedForms sol = .ok plan ∧ plan.map (·.form) = ["8889:taxpayer"]) ∧
    ∃ sol', Solution.ofText sol.text = .ok sol' ∧ library.plan printedForms sol' = .ok [] := by
  obtain ⟨inputs, s₀, s, hin, ha, hr, hlook⟩ := exists_solve "" false ["8889:taxpayer"]
    (fun _ => none) 100
    (fun s => (s.forms.keys, s.solution.toOption.map fun sol => (sol.forms.names, sol.text,
      (library.plan printedForms sol).toOption.map (·.map (·.form)))))
    (["8889:taxpayer"], some (["8889:taxpayer"], "", some ["8889:taxpayer"])) (by decide +kernel)
  simp only [Prod.mk.injEq] at hlook
  obtain ⟨hforms, hlook⟩ := hlook
  obtain ⟨sol, hsol, hlook⟩ := Option.map_eq_some_iff.mp hlook
  simp only [Prod.mk.injEq] at hlook
  obtain ⟨hnames, htext, hplan⟩ := hlook
  have hsol : s.solution = .ok sol := by
    cases hs : s.solution <;> simp_all [Except.toOption]
  have hplan : ∃ plan, library.plan printedForms sol = .ok plan ∧
      plan.map (·.form) = ["8889:taxpayer"] := by
    cases hp : library.plan printedForms sol <;> simp_all [Except.toOption]
  have hempty : Solution.ofText sol.text = .ok .empty := by
    rw [htext]
    rfl
  refine ⟨inputs, s₀, s, sol, hin, ha, ?_, hr, hsol, ?_, ?_, htext, hplan, .empty, hempty,
    by decide +kernel⟩
  · intro question w raw he
    cases he
  · rw [← Std.ExtTreeMap.mem_keys, hforms]
    exact List.mem_singleton_self _
  · rw [hempty]
    rintro ⟨rfl⟩
    cases hnames

end Year2023
end TaxReturn
