import TaxReturn.Proofs.Solver.Written
import TaxReturn.Proofs.Year2023.Reloading

/-! What is computed over the library of 2023 is read back from the solution that is written of it,
value for value. -/
namespace TaxReturn
namespace Year2023

open Solver

variable {s s₀ : Solver} {p : Point} {f : String} {inputs : InputStore} {v : Value} {sol : Solution}

theorem recoverable_library : ∀ form ∈ library.forms, ∀ field ∈ form.fields,
    field.kind.Recoverable := by decide

/-- Where nothing that is given spans lines, text is kept without blanks around it. -/
theorem Standing.trimmed (h : Standing inputs p) (hin : p.solver.inputs.Unbroken)
    (hv : p.solver.values.get? f = some v) : v.trimmed = v := by
  obtain ⟨q, base, form, field, -, hs, hq, hb⟩ := h.exists_field hv
  have hline := h.oneLine_encode hin hv hs hq hb
  cases v with
  | text s => exact congrArg Value.text hline.trimmed
  | _ => rfl

/-- What stands in a solution is read as what is committed, but for the blanks around text. -/
theorem Standing.exists_decode (h : Standing inputs p) (hsol : Encodes p.solver sol) :
    ∃ values, library.decode sol = .ok values ∧
      ∀ f, values.get? f = (p.solver.values.get? f).map Value.trimmed := by
  have hevaluated : Evaluated library p.solver := fun f v hv => by
    obtain ⟨inputs', values', he, -⟩ := h.traces.committed f v hv
    exact ⟨inputs', values', he⟩
  obtain ⟨hchoices, hget⟩ := h.registered.read_back hevaluated hsol
  have hkept : ∀ f v q field, p.solver.values.get? f = some v →
      p.solver.field? f = some (q, field) → (∃ w, field.kind.canonicalize w = .ok v) ∧
        field.kind.decode (field.kind.encode v) = .ok v.trimmed := by
    intro f v q field hv hfield
    obtain ⟨base, form, hsplit, hq, hb⟩ := h.registered.field?_eq_some_iff.mp hfield
    obtain ⟨rfl, -⟩ := Name.split_eq_some_iff.mp hsplit
    obtain ⟨name, hi⟩ := h.registered.instantiated q form hq
    obtain ⟨-, ⟨w, hw⟩, -⟩ := h.registered.kept hevaluated hv hfield
    exact ⟨⟨w, hw⟩, (recoverable_library form (Library.mem_forms_of_instantiate hi) field
      (name_of_field? hb).1).decode_encode hw⟩
  obtain ⟨values, hvalues⟩ := hchoices.mpr fun f key q field hv hfield => by
    obtain ⟨⟨w, hw⟩, hread⟩ := hkept f _ q field hv hfield
    exact (ValueKind.exists_decode_encode_iff hw).mp ⟨_, hread⟩ key rfl
  refine ⟨values, hvalues, fun f => Option.ext fun v' => ?_⟩
  rw [hget values hvalues, Option.map_eq_some_iff]
  constructor
  · rintro ⟨v, q, field, hv, hfield, hread⟩
    rw [(hkept f v q field hv hfield).2] at hread
    exact ⟨v, hv, Except.ok.inj hread⟩
  · rintro ⟨v, hv, rfl⟩
    obtain ⟨q, base, form, field, hfield, -⟩ := h.exists_field hv
    exact ⟨v, q, field, hv, hfield, (hkept f v q field hv hfield).2⟩

/-- A solve over the library of 2023 whose inputs come from a file and from answers on single lines:
what is read from the text of its solution are the values that are committed, each of them and no
others. -/
theorem solution_recovers {σ : Type} {ask : Question → StateM σ (Option String)} {moves : ℕ}
    {w w' : σ} {text : String} {canAsk : Bool} {requests : List String}
    (ht : InputStore.ofText text = .ok inputs)
    (ha : (initial library inputs canAsk).addForms requests = .ok s₀) (hask : SingleLine ask)
    (hr : (s₀.solve ask moves).run w = (.finished s, w')) : ∃ sol read,
      s.solution = .ok sol ∧ Solution.ofText sol.text = .ok read ∧
      library.decode read = .ok s.values := by
  obtain ⟨lost, sol, hs, hin, hsol, henc⟩ := exists_solution_of_solve ht ha hask hr
  obtain ⟨values, hvalues, hget⟩ := hs.exists_decode henc
  have heq : values = s.values := by
    apply ValueStore.ext_get?
    intro f
    rw [hget]
    cases hv : s.values.get? f with
    | none => rfl
    | some v => rw [Option.map_some, hs.trimmed hin hv]
  exact ⟨sol, _, hsol, Solution.ofText_text (hs.plain_toSections hin henc),
    Library.decode_toSections.trans (heq ▸ hvalues)⟩

/-- Somebody who knows of self-only coverage and of nothing else. -/
def selfOnly (question : Question) : Option String :=
  if question.name = "8889:taxpayer.coverage" then some "self_only" else none

/-- Contributions of negative zero from a file, and a coverage that is answered. -/
theorem solution_recovers_contributions : ∃ inputs s₀ s,
    InputStore.ofText "[8889:taxpayer]\ncontributions = -0\ndistributions = 0\n" = .ok inputs ∧
    (initial library inputs true).addForms ["8889:taxpayer"] = .ok s₀ ∧
    SingleLine (σ := Unit) (fun question => pure (selfOnly question)) ∧
    (s₀.solve (m := StateM Unit) (fun question => pure (selfOnly question)) 100).run () =
      (.finished s, ()) ∧
    s.values.get? "8889:taxpayer.1" = some (.choice (some "self_only")) ∧
    s.values.get? "8889:taxpayer.2" = some (.number ⟨true, 0, 2, by decide⟩) ∧
    ∃ sol read, s.solution = .ok sol ∧ Solution.ofText sol.text = .ok read ∧
      library.decode read = .ok s.values := by
  obtain ⟨inputs, s₀, s, hin, ha, hr, hlook⟩ := exists_solve
    "[8889:taxpayer]\ncontributions = -0\ndistributions = 0\n" true ["8889:taxpayer"] selfOnly 100
    (fun s => (s.values.get? "8889:taxpayer.1", s.values.get? "8889:taxpayer.2"))
    (some (.choice (some "self_only")), some (.number ⟨true, 0, 2, by decide⟩))
    (by decide +kernel)
  simp only [Prod.mk.injEq] at hlook
  obtain ⟨hcoverage, hcontributed⟩ := hlook
  have hask : SingleLine (σ := Unit) (fun question => pure (selfOnly question)) := by
    intro question w raw he
    change selfOnly question = some raw at he
    unfold selfOnly at he
    split at he <;> cases he
    decide
  exact ⟨inputs, s₀, s, hin, ha, hask, hr, hcoverage, hcontributed,
    solution_recovers hin ha hask hr⟩

end Year2023
end TaxReturn
