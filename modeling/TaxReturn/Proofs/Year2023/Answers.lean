import TaxReturn.Proofs.Solver.Questions
import TaxReturn.Proofs.Year2023.Standing

/-! A solve of 2023 that is answered. What is given on the way opens no section of a statement, so
what evaluations came to stands until the end, except for the total over the forms 8889: these are
taken up because they are asked for, and their sections may be opened by the answers. -/
namespace TaxReturn.Year2023

open Solver

variable {s t : Solver} {p p' : Point} {f d q base name : String} {given : Sections}
  {requests fixed lost : List String} {outcome : Except Signal Value}
  {calls : List (Call × Reply)} {inputs : InputStore}

/-- What holds throughout a session in which questions are answered and no call fails. -/
structure Answered (given : Sections) (requests fixed : List String) (p : Point) : Prop where
  registered : Registered library ∅ p.solver
  balanced : Balanced p
  reasoned : Reasoned requests p.solver
  traces : Traces (Traced fixed p.solver) (fun i => p.solver.inputs.raw? i = none) p.solver
  canAsk : p.solver.canAsk = true
  kept : ∀ q ∈ given.names, q ∈ p.solver.inputs.given.names
  sectioned : ∀ f ∈ p.solver.attempted, Sectioned fixed p.solver.inputs f
  asked : ∀ i ∈ p.solver.asked, p.solver.inputs.has i ∨ p.solver.refused = true

theorem Answered.lasting (h : Answered given requests fixed p) : Lasting ∅ fixed p :=
  ⟨h.registered, h.balanced, h.traces, h.sectioned⟩

theorem answered_step (h : Answered given requests fixed p) (hs : Step p p') :
    Answered given requests fixed p' where
  registered := registered_step h.registered hs
  balanced := balanced_step h.balanced hs
  reasoned := reasoned_step h.reasoned hs
  traces := h.lasting.traces_step hs
  canAsk := (canAsk_step hs).trans h.canAsk
  kept q hq := (h.lasting.carries_step hs).names q (h.kept q hq)
  sectioned := h.lasting.sectioned_step hs
  asked := heard_step h.asked hs

/-- The sections of the instances that are asked for are there from the start, but those of
statements need not be. -/
def Prepared (given : Sections) (requests fixed : List String) : Prop :=
  ∀ q ∈ requests, ∀ form ∈ fixed, InputStore.tagOf? form q ≠ none →
    q ∈ given.names ∨ form ∈ statements

theorem answered_addForm (hprep : Prepared given requests fixed)
    (h : Answered given requests fixed ⟨s, lost, none⟩) (ha : s.addForm q = .ok t)
    (hq : q ∈ requests) : Answered given requests fixed ⟨t, lost, none⟩ := by
  have hlast : Lasting ∅ fixed ⟨t, lost, none⟩ := h.lasting.addForm ha fun form hform ht =>
    (hprep q hq form hform ht).imp_left (h.kept q)
  have hreason := reasoned_addForm h.reasoned ha hq
  obtain ⟨new, hg⟩ := addForm_grows ha
  have hgiven : t.inputs.given = s.inputs.given := hg.given
  exact ⟨hlast.registered, hlast.balanced, hreason, hlast.traces, hg.canAsk.trans h.canAsk,
    fun q hq => hgiven ▸ h.kept q hq, hlast.sectioned,
    Heard.congr h.asked hg.asked hgiven hg.refused⟩

theorem answered_initial : Answered given requests fixed
    ⟨initial library (.ofSections given) true, [], none⟩ where
  registered := @registered_initial library (.ofSections given) true
  balanced := balanced_initial
  reasoned := by simp [Reasoned, initial]
  traces := .initial
  canAsk := rfl
  kept _ hq := hq
  sectioned := by simp [initial]
  asked := by simp [initial]

theorem Answered.finish (h : Answered given requests fixed ⟨s, lost, none⟩) :
    Answered given requests fixed ⟨s.finish, lost, none⟩ :=
  have hlast := h.lasting.finish
  ⟨hlast.registered, hlast.balanced, h.reasoned, hlast.traces, h.canAsk, h.kept, hlast.sectioned,
    h.asked⟩

theorem answered_session (hprep : Prepared given (requested calls) fixed)
    (h : Session (initial library (.ofSections given) true) calls s) (hok : ErrorFree calls) :
    Answered given (requested calls) fixed ⟨s, [], none⟩ := by
  obtain ⟨lost, hs, hlost⟩ := h.induction (I := Answered given (requested calls) fixed)
    answered_initial (fun _ _ _ _ hq hs ha => answered_addForm hprep hs ha hq)
    (fun _ _ hp hs => answered_step hp hs) (fun _ _ hs _ => hs.finish) (.inl hok)
  exact hlost hok ▸ hs

/-- Once nothing is left to do and nothing was refused, no field lacks an input. -/
theorem Answered.not_lacking (h : Answered given requests fixed p) (hw : p.solver.hasWork = false)
    (hr : p.solver.refused = false) (i : String) : f ∉ p.solver.inputWaits.waiters i := by
  intro hi
  obtain ⟨-, -, hmet, hmay⟩ := hasWork_eq_false hw
  have hraw := (h.traces.lacking f i hi).2
  simp only [hmet, List.not_mem_nil, false_or] at hraw
  have hun : i ∈ p.solver.inputWaits.unmetNames :=
    Waitlist.mem_unmetNames.mpr ⟨List.ne_nil_of_mem hi, by simp [hmet]⟩
  have hasked : i ∈ p.solver.asked := by
    simp only [mayAsk, h.canAsk, hr, Bool.not_false, Bool.true_and, List.any_eq_false] at hmay
    simpa using hmay i hun
  rcases h.asked i hasked with hhas | href
  · simp [InputStore.has, hraw] at hhas
  · rw [hr] at href
    cases href

/-- Once nothing is left to do and nothing was refused, the fields that lead to the deductions are
committed. -/
theorem Answered.has_of_deducts (h : Answered given requests fixed ⟨s, [], none⟩)
    (hw : s.hasWork = false) (hr : s.refused = false) (hf : f ∈ s.attempted) (hd : Deducts f) :
    s.values.has f := by
  induction hn : fieldRank f using Nat.strongRecOn generalizing f with
  | ind n ih =>
    rcases h.balanced.settled hw hf with hv | ⟨d, hd'⟩ | ⟨i, hi⟩ | hu
    · exact hv
    · obtain ⟨hatt, ⟨inputs, values, he, -⟩, hm⟩ := h.traces.waiting f d hd'
      have hmet : s.fieldWaits.met = [] := (hasWork_eq_false hw).2.1
      simp only [hmet, List.not_mem_nil, false_or] at hm
      have hhas := ih _ (hn ▸ rank_of_unmet he) hatt (hd.of_unmet he) rfl
      simp [ValueStore.has, hm] at hhas
    · exact absurd hi (h.not_lacking hw hr i)
    · obtain ⟨m, inputs, values, he, -⟩ := h.traces.left f hu
      exact absurd he hd.not_notImplemented

/-- Once nothing is left to do and nothing was refused, the places of the fields are what their
evaluations come to, provided that this is so for the total over the forms 8889. -/
theorem Answered.outcomes (h : Answered given requests fixed ⟨s, [], none⟩)
    (hfixed : ∀ form ∈ statements, form ∈ fixed) (hw : s.hasWork = false)
    (hr : s.refused = false)
    (htotal : ∀ v, s.values.get? deductionTotal = some v →
      library.Evaluates s.inputs s.values deductionTotal (.ok v)) :
    ∀ f ∈ s.attempted, ∃ outcome, Outcome s f outcome ∧
      library.Evaluates s.inputs s.values f outcome := by
  intro f hf
  by_cases hd : f = deductionTotal
  · subst hd
    obtain ⟨v, hv⟩ := Option.isSome_iff_exists.mp (h.has_of_deducts hw hr hf .total)
    exact ⟨_, .committed hv, htotal v hv⟩
  · exact h.lasting.exists_outcome hfixed hw hf (.inl hd)

end TaxReturn.Year2023
