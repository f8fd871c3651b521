import TaxReturn.Proofs.Solver.Explanation

/-! The cycles that are reported are those that there are. A field that was released keeps the note
of what it waited for until it is evaluated, so a chain of notes may pass fields that wait no more.
Such a note leads to a name that is committed, and no note leads on from there, so a chain that
closes passes none. -/
namespace TaxReturn.Solver

open Relation

variable {s t : Solver} {p p' : Point} {a b d e f q : String} {hand lost requests : List String}
  {current : Option String} {library : Library} {inputs : InputStore} {canAsk : Bool}
  {calls : List (Call × Reply)} {chain : List String}

/-- What the notes of a point say of fields that wait no more: a name is met because it was
committed, and a field is held because the name was met that it is noted to wait for. -/
structure Noted (p : Point) : Prop where
  met : ∀ d ∈ p.solver.fieldWaits.met, p.solver.values.has d
  held : ∀ f ∈ p.held, ∀ d, WaitsFor p.solver.waitingOn f d → p.solver.values.has d

theorem Noted.grows {new : String → Prop} (h : Noted ⟨s, hand, current⟩) (hg : Grows s t new) :
    Noted ⟨t, hand, current⟩ where
  met := by
    simp only [hg.fieldWaits, hg.values]
    exact h.met
  held := by
    simp only [hg.waitingOn, hg.values]
    exact h.held

theorem Misses.mem_forms (h : Misses s t) (hq : q ∈ s.forms) : q ∈ t.forms := by
  cases h with
  | unknown => exact hq
  | takenUp hq' hi => exact (mem_forms_takeUp hi).mpr (.inr hq)

/-- Where nobody is asked, what fails is an evaluation, and all that it changes is that more comes
to be known. -/
theorem Fails.grows {error : TaxError} (hf : Fails p error t) (hc : ¬ p.solver.canAsk) :
    (∀ q ∈ p.solver.forms, q ∈ t.forms) ∧
    ∃ evaluated new, Grows { p.solver with evaluated } t new := by
  cases hf with
  | @unknown s hand name reader hv hn => exact ⟨fun q hq => hq, _, _, .refl⟩
  | @fatal s hand name e hv hy => exact ⟨fun q hq => hq, _, _, .refl⟩
  | @missed s t hand name dep e hv hy hd =>
    have hm := misses_of_discover hd
    obtain ⟨new, hg⟩ := hm.grows
    exact ⟨fun q hq => hm.mem_forms hq, _, new, hg⟩
  | @cyclic s t hand name dep path hv hy hd hp =>
    obtain ⟨new, hg, -⟩ := hd.grows
    exact ⟨fun q hq => hd.mem_forms.mpr (.inl hq), _, new, hg⟩
  | unspecified hc' => exact absurd hc' hc
  | unreadable hc' => exact absurd hc' hc
  | ungiven hc' => exact absurd hc' hc

theorem reasoned_keys (s : Solver) : Reasoned s.forms.keys s := fun q hq => .inl (by simpa using hq)

/-- What holds while nobody is asked holds after a call that fails, but for the reasons: the form
of a field that there is not may have been taken up. -/
theorem Unprompted.fails {error : TaxError} (hagree : inputs.AgreesWith library)
    (h : Unprompted library inputs requests p) (hf : Fails p error t) :
    Unprompted library inputs t.forms.keys ⟨t, p.held, none⟩ := by
  obtain ⟨hforms, evaluated, new, hg⟩ := hf.grows h.not_canAsk
  have hreg := registered_fails h.registered hf
  have hin := h.registered.within hreg hagree hg.given hforms
  have hle : p.solver.values ≤ t.values := hg.values ▸ ValueStore.le_refl _
  have hlog : Traces (Came library p.solver) (fun _ => True) { p.solver with evaluated } :=
    ⟨h.traces.committed, h.traces.waiting, h.traces.lacking, h.traces.left⟩
  constructor
  case registered => exact hreg
  case balanced => exact balanced_fails h.balanced hf
  case traces => exact (hlog.grows hg).mono (fun f _ hc => hc.mono hin hle) fun _ _ => .inr trivial
  case canAsk => exact hg.canAsk.trans h.canAsk
  case given => exact hg.given.trans h.given
  case reasoned => exact reasoned_keys t

/-- Throughout a session that nobody answers, whatever fails in it, what stands in the places of
the fields is what evaluations come to, and the notes are right. -/
structure Silent (library : Library) (inputs : InputStore) (p : Point) : Prop where
  unprompted : Unprompted library inputs p.solver.forms.keys p
  noted : Noted p

end TaxReturn.Solver
