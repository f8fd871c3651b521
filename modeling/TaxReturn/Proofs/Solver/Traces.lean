import TaxReturn.Proofs.Solver.Ledger

/-! What stands in the places of a solver is there because an evaluation came to it. What is known
of these evaluations, and of the inputs that fields lack, is left open. -/
namespace TaxReturn.Solver

variable {s t : Solver} {p p' : Point} {f d : String}
  {T T' : String → Except Signal Value → Prop} {A A' : String → Prop} {new : String → Prop}

/-- Of what a field came to `T` is known, and `A` of an input that it lacks. What a field waits for
is not committed, or it is met and not released yet. -/
structure Traces (T : String → Except Signal Value → Prop) (A : String → Prop) (s : Solver) :
    Prop where
  committed : ∀ f v, s.values.get? f = some v → T f (.ok v)
  waiting : ∀ f d, f ∈ s.fieldWaits.waiters d → d ∈ s.attempted ∧ T f (.error (.unmet d)) ∧
    (d ∈ s.fieldWaits.met ∨ s.values.get? d = none)
  lacking : ∀ f i, f ∈ s.inputWaits.waiters i → T f (.error (.missingInput i)) ∧
    (i ∈ s.inputWaits.met ∨ A i)
  left : ∀ f ∈ s.unimplemented, ∃ m, T f (.error (.notImplemented m))

namespace Traces

theorem initial {library : Library} {inputs : InputStore} {canAsk : Bool} :
    Traces T A (initial library inputs canAsk) := by
  constructor <;> simp [Solver.initial, ValueStore.empty, ValueStore.get?]

theorem mono (h : Traces T A s) (hT : ∀ f outcome, T f outcome → T' f outcome)
    (hA : ∀ i, A i → i ∈ s.inputWaits.met ∨ A' i) : Traces T' A' s where
  committed f v hv := hT f _ (h.committed f v hv)
  waiting f d hw := by
    obtain ⟨hd, ht, hm⟩ := h.waiting f d hw
    exact ⟨hd, hT f _ ht, hm⟩
  lacking f i hw := by
    obtain ⟨ht, hi⟩ := h.lacking f i hw
    exact ⟨hT f _ ht, hi.elim .inl (hA i)⟩
  left f hf := (h.left f hf).imp fun m => hT f _

theorem grows (h : Traces T A s) (hg : Grows s t new) : Traces T A t where
  committed := hg.values ▸ h.committed
  waiting f d hw := by
    rw [hg.fieldWaits] at hw ⊢
    obtain ⟨hd, ht, hm⟩ := h.waiting f d hw
    exact ⟨(hg.attempted d).mpr (.inl hd), ht, hg.values ▸ hm⟩
  lacking := hg.inputWaits ▸ h.lacking
  left := hg.unimplemented ▸ h.left

theorem finish (h : Traces T A s) : Traces T A s.finish :=
  ⟨h.committed, h.waiting, h.lacking, h.left⟩

theorem commit {name : String} {value : Value} (h : Traces T A s)
    (hn : s.values.has name = false) (hT : T name (.ok value)) :
    Traces T A { s.log name with
      values := s.values.commit name value
      fieldWaits := s.fieldWaits.meet name } where
  committed f v hf := by
    rw [ValueStore.get?_commit] at hf
    split at hf
    · rename_i he
      have hnone : s.values.get? name = none := by simpa [ValueStore.has] using hn
      rw [hnone] at hf
      cases hf
      exact he ▸ hT
    · exact h.committed f v hf
  waiting f d hw := by
    obtain ⟨hd, ht, hm⟩ := h.waiting f d hw
    refine ⟨hd, ht, ?_⟩
    rw [Waitlist.met_meet, List.mem_append, ValueStore.get?_commit]
    -- The value committed is either the one waited for or another one.
    by_cases he : d = name
    · exact .inl (.inr (by simp [he]))
    · rw [if_neg he]
      exact hm.imp_left .inl
  lacking := h.lacking
  left := h.left

/-- A change that leaves all places as they are, or puts there what an evaluation came to. -/
theorem step (h : Traces T A p.solver) (hb : Balanced p) (hs : Step p p')
    (hT : ∀ f outcome, f ∈ p.solver.attempted → p.solver.Yields f outcome → T f outcome)
    (hd : ∀ f d, p.solver.Yields f (.error (.unmet d)) → p.solver.values.get? d = none)
    (hA : ∀ f i, p.solver.Yields f (.error (.missingInput i)) → A i) :
    Traces T A p'.solver := by
  cases hs with
  | @commit s hand name value hv hy => exact h.commit hv (hT name _ hb.attempted_current hy)
  | @wait s t hand name dep hv hy hd' hp =>
    obtain ⟨new, hg, hdep⟩ := hd'.grows
    have ht : Traces T A t := grows (s := s.log name) ⟨h.1, h.2, h.3, h.4⟩ hg
    refine ⟨ht.committed, fun f d hw => ?_, ht.lacking, ht.left⟩
    rcases Waitlist.mem_waiters_add.mp hw with hw | ⟨rfl, rfl⟩
    · exact ht.waiting f d hw
    · exact ⟨hdep, hT f _ hb.attempted_current hy, .inr (hg.values ▸ hd f d hy)⟩
  | @lack s hand name input hv hy =>
    refine ⟨h.committed, h.waiting, fun f i hw => ?_, h.left⟩
    rcases Waitlist.mem_waiters_add.mp hw with hw | ⟨rfl, rfl⟩
    · exact h.lacking f i hw
    · exact ⟨hT f _ hb.attempted_current hy, .inr (hA f i hy)⟩
  | @leave s hand name detail hv hy =>
    refine ⟨h.committed, h.waiting, h.lacking, fun f hf => ?_⟩
    have hf : f ∈ s.unimplemented ∨ f = name := by
      simp only at hf
      split at hf
      · exact .inl hf
      · simpa using hf
    rcases hf with hf | rfl
    · exact h.left f hf
    · exact ⟨detail, hT f _ hb.attempted_current hy⟩
  | @release s hand =>
    refine ⟨h.committed, fun f d hw => ?_, h.lacking, h.left⟩
    simp only [Waitlist.waiters_releaseAll] at hw
    split at hw
    · simp at hw
    · rename_i hm
      obtain ⟨hd, ht, hm'⟩ := h.waiting f d hw
      exact ⟨hd, ht, .inr (hm'.resolve_left hm)⟩
  | @supply s hand =>
    refine ⟨h.committed, h.waiting, fun f i hw => ?_, h.left⟩
    simp only [Waitlist.waiters_releaseAll] at hw
    split at hw
    · simp at hw
    · rename_i hm
      obtain ⟨ht, hm'⟩ := h.lacking f i hw
      exact ⟨ht, .inr (hm'.resolve_left hm)⟩
  | @accept s hand input spec value raw new inputs hc hr ha hw hs hp hg =>
    refine ⟨h.committed, h.waiting, fun f i hw => ?_, h.left⟩
    obtain ⟨ht, hm⟩ := h.lacking f i hw
    exact ⟨ht, hm.imp_left fun hm => List.mem_append_left _ hm⟩
  | _ => exact ⟨h.committed, h.waiting, h.lacking, h.left⟩

end Traces
end TaxReturn.Solver
