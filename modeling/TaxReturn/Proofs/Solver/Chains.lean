import TaxReturn.Proofs.Solver.Ledger
import Mathlib.Data.Finset.Card
import Mathlib.Data.List.Chain

/-! Chains of waits. A field waits for one name at a time, and a wait that would lead back to the
field itself is refused, so every chain comes to a name that waits for nothing. There are never
more names to pass than fields that wait, which is how far a chain is followed. -/
namespace TaxReturn.Solver

open Relation

variable {s t : Solver} {p p' : Point} {m : Move} {f d name dep goal current q : String}
  {waitingOn : Name.Table String} {rank : String → ℕ} {lost : List String} {library : Library}
  {inputs : InputStore} {canAsk : Bool} {calls : List (Call × Reply)}

/-- A field waits for a name. -/
def WaitsFor (waitingOn : Name.Table String) (f d : String) : Prop := waitingOn[f]? = some d

/-- No chain of waits leads back to where it came from. -/
def Acyclic (waitingOn : Name.Table String) : Prop := ∀ f, ¬ TransGen (WaitsFor waitingOn) f f

theorem WaitsFor.unique (h : WaitsFor waitingOn f d) (h' : WaitsFor waitingOn f name) :
    d = name :=
  Option.some.inj (h.symm.trans h')

theorem Acyclic.erase (h : Acyclic waitingOn) : Acyclic (waitingOn.erase name) := by
  intro f hf
  refine h f (TransGen.mono (fun a b hab => ?_) f f hf)
  rw [WaitsFor, Name.getElem?_erase] at hab
  split at hab
  · cases hab
  · exact hab

/-- A chain with one wait more is a chain without it, or it leads to the new wait and on from what
is waited for. -/
theorem transGen_insert (hn : ¬ ReflTransGen (WaitsFor waitingOn) dep name)
    (h : TransGen (WaitsFor (waitingOn.insert name dep)) f d) :
    TransGen (WaitsFor waitingOn) f d ∨
      ReflTransGen (WaitsFor waitingOn) f name ∧ ReflTransGen (WaitsFor waitingOn) dep d := by
  have hedge : ∀ {a b}, WaitsFor (waitingOn.insert name dep) a b →
      a = name ∧ b = dep ∨ WaitsFor waitingOn a b := by
    intro a b hab
    rw [WaitsFor, Name.getElem?_insert] at hab
    split at hab
    · rename_i ha
      exact .inl ⟨ha, (Option.some.inj hab).symm⟩
    · exact .inr hab
  induction h with
  | single hab =>
    rcases hedge hab with ⟨rfl, rfl⟩ | hab
    · exact .inr ⟨.refl, .refl⟩
    · exact .inl (.single hab)
  | tail _ hbc ih =>
    rcases hedge hbc with ⟨rfl, rfl⟩ | hbc
    · rcases ih with hab | ⟨-, hdep⟩
      · exact .inr ⟨hab.to_reflTransGen, .refl⟩
      · exact absurd hdep hn
    · rcases ih with hab | ⟨ha, hdep⟩
      · exact .inl (hab.tail hbc)
      · exact .inr ⟨ha, hdep.tail hbc⟩

theorem Acyclic.insert (h : Acyclic waitingOn)
    (hn : ¬ ReflTransGen (WaitsFor waitingOn) dep name) :
    Acyclic (waitingOn.insert name dep) := by
  intro f hf
  rcases transGen_insert hn hf with hff | ⟨hname, hdep⟩
  · exact h f hff
  · exact hn (hdep.trans hname)

/-- Along the chains of waits the number of fields that are still ahead goes down. -/
theorem Acyclic.exists_rank (h : Acyclic waitingOn) : ∃ rank : String → ℕ,
    (∀ f d, WaitsFor waitingOn f d → rank d < rank f) ∧ ∀ f, rank f ≤ waitingOn.size := by
  classical
  let ahead : String → Finset String := fun f =>
    waitingOn.keys.toFinset.filter fun k => ReflTransGen (WaitsFor waitingOn) f k
  refine ⟨fun f => (ahead f).card, fun f d hfd => ?_, fun f => ?_⟩
  · apply Finset.card_lt_card
    rw [Finset.ssubset_iff_of_subset]
    · refine ⟨f, ?_, ?_⟩
      · have hf : f ∈ waitingOn := Name.mem_iff_getElem?.mpr ⟨d, hfd⟩
        simp [ahead, hf, ReflTransGen.refl]
      · intro hd
        exact h f (TransGen.head' hfd (Finset.mem_filter.mp hd).2)
    · intro k hk
      obtain ⟨hm, hdk⟩ := Finset.mem_filter.mp hk
      exact Finset.mem_filter.mpr ⟨hm, hdk.head hfd⟩
  · calc (ahead f).card ≤ waitingOn.keys.toFinset.card := Finset.card_filter_le _ _
      _ ≤ waitingOn.keys.length := waitingOn.keys.toFinset_card_le
      _ = waitingOn.size := Std.ExtTreeMap.length_keys

theorem waitPath_self {fuel : ℕ} : waitPath waitingOn goal fuel goal = some [goal] := by
  rw [waitPath.eq_def]
  simp

theorem waitPath_next {fuel : ℕ} (hne : current ≠ goal) (hw : WaitsFor waitingOn current d) :
    waitPath waitingOn goal (fuel + 1) current =
      (waitPath waitingOn goal fuel d).map (current :: ·) := by
  rw [waitPath.eq_def]
  simp [hne, show waitingOn[current]? = some d from hw]

theorem waitPath_end {fuel : ℕ} (hne : current ≠ goal)
    (hend : fuel = 0 ∨ waitingOn[current]? = none) :
    waitPath waitingOn goal fuel current = none := by
  rw [waitPath.eq_def]
  rcases hend with rfl | hw
  · simp [hne]
  · cases fuel <;> simp [hne, hw]

theorem reflTransGen_next (hne : current ≠ goal) (hw : WaitsFor waitingOn current d) :
    ReflTransGen (WaitsFor waitingOn) current goal ↔ ReflTransGen (WaitsFor waitingOn) d goal := by
  constructor
  · intro hpath
    rcases hpath.cases_head with hgoal | ⟨x, hx, hpath⟩
    · exact absurd hgoal hne
    · exact hx.unique hw ▸ hpath
  · exact fun hpath => hpath.head hw

theorem not_reflTransGen_end (hne : current ≠ goal) (hend : ∀ d, ¬ WaitsFor waitingOn current d) :
    ¬ ReflTransGen (WaitsFor waitingOn) current goal := by
  intro hpath
  rcases hpath.cases_head with hgoal | ⟨d, hd, -⟩
  · exact hne hgoal
  · exact hend d hd

/-- A chain that is followed as far as it can go is found to lead to a name if it does. -/
theorem waitPath_eq_none_of_rank (hrank : ∀ f d, WaitsFor waitingOn f d → rank d < rank f)
    {fuel : ℕ} (hfuel : rank current ≤ fuel) :
    waitPath waitingOn goal fuel current = none ↔
      ¬ ReflTransGen (WaitsFor waitingOn) current goal := by
  induction fuel generalizing current with
  | zero =>
    have hend : ∀ d, ¬ WaitsFor waitingOn current d := fun d hd => by
      have := hrank current d hd
      omega
    by_cases he : current = goal
    · subst he
      simp [waitPath_self, ReflTransGen.refl]
    · simp [waitPath_end he (.inl rfl), not_reflTransGen_end he hend]
  | succ fuel ih =>
    by_cases he : current = goal
    · subst he
      simp [waitPath_self, ReflTransGen.refl]
    cases hw : waitingOn[current]? with
    | none =>
      have hend : ∀ d, ¬ WaitsFor waitingOn current d := by simp [WaitsFor, hw]
      simp [waitPath_end he (.inr hw), not_reflTransGen_end he hend]
    | some next =>
      have hlt := hrank current next hw
      rw [waitPath_next he hw, Option.map_eq_none_iff, reflTransGen_next he hw]
      exact ih (by omega)

/-- To follow as many waits as there are fields that wait is enough. -/
theorem Acyclic.waitPath_eq_none_iff (h : Acyclic waitingOn) :
    waitPath waitingOn goal waitingOn.size current = none ↔
      ¬ ReflTransGen (WaitsFor waitingOn) current goal := by
  obtain ⟨rank, hrank, hsize⟩ := h.exists_rank
  exact waitPath_eq_none_of_rank hrank (hsize current)

end TaxReturn.Solver
