import TaxReturn.Proofs.Solver.Unprompted
import TaxReturn.Proofs.Solver.Evaluations
import Mathlib.Algebra.Order.BigOperators.Group.List
import Mathlib.Algebra.Order.Group.Nat

/-! A solve comes to an end, whoever answers, where the fields that it stops at are finitely many.
What is still ahead of it is counted: the fields that are not taken from the work list or not
committed, the names met, and the inputs that are not asked for. No change adds to this, and a round
that has something to do takes something away. -/
namespace TaxReturn.Solver

variable {s t : Solver} {p p' : Point} {name : String} {library : Library} {inputs : InputStore}
  {canAsk : Bool} {calls : List (Call × Reply)} {l : List Moment} {run : Run} {m : Move}
  {hand : List String}

/-- What is ahead for a field: to take it from the work list, to commit it, and to release those who
wait for it. -/
def weight (s : Solver) (f : String) : ℕ := s.fresh f + if s.values.has f then 0 else 2

/-- What is ahead for an input: to ask for it, and to release those who wait for it. -/
def askWeight (s : Solver) (i : String) : ℕ := if i ∈ s.asked then 0 else 2

/-- Names that fields may stop at, with all the fields and inputs that they bring along. -/
structure Range (library : Library) where
  unmet : List String
  fields : List String
  inputs : List String
  needed : ∀ d ∈ unmet, d ∈ fields
  required : ∀ d ∈ unmet, ∀ q base name form, Name.split d = some (q, base) →
    library.instantiate q = .ok (name, form) → ∀ f ∈ form.requiredAs name, f ∈ fields
  asked : ∀ d ∈ unmet, ∀ q base name form, Name.split d = some (q, base) →
    library.instantiate q = .ok (name, form) → ∀ i spec, form.inputAs? name i = some spec →
      i ∈ inputs

variable {r : Range library}

/-- What is still ahead within a range. -/
def ahead (r : Range library) (s : Solver) : ℕ :=
  (r.fields.map s.weight).sum + (r.inputs.map s.askWeight).sum + s.fieldWaits.met.length +
    s.inputWaits.met.length

/-- Fields wait for names of a list only. -/
def WaitsIn (L : List String) (s : Solver) : Prop := ∀ d f, f ∈ s.fieldWaits.waiters d → d ∈ L

/-- A solver whose fields and inputs lie within a range. -/
structure Enclosed (r : Range library) (p : Point) : Prop where
  accounted : Accounted p
  source : p.solver.library = library
  fields : ∀ f ∈ p.solver.attempted, f ∈ r.fields
  inputs : ∀ i ∈ p.solver.inputSpecs, i ∈ r.inputs

theorem enclosed_step (h : Enclosed r p) (hw : WaitsIn r.unmet p'.solver) (hs : Step p p') :
    Enclosed r p' := by
  have hacc := h.accounted.step hs
  cases hs with
  | @wait s t hand name dep hv hy hd hp =>
    have hdep : dep ∈ r.unmet := hw dep name (Waitlist.mem_waiters_add.mpr (.inr ⟨rfl, rfl⟩))
    have hl : (s.log name).library = library := h.source
    obtain ⟨new, hg, -⟩ := hd.grows
    refine ⟨hacc, hg.library.trans h.source, ?_, fun i hi => ?_⟩
    · exact hd.within h.fields (r.needed dep hdep) (hl ▸ r.required dep hdep)
    · cases hd with
      | attempted ha => exact h.inputs i hi
      | known ha hf =>
        have hi : i ∈ (s.log name).inputSpecs := by simpa using hi
        exact h.inputs i hi
      | takenUp ha hsplit hq hin hf =>
        rcases mem_inputSpecs_takeUp.mp (by simpa using hi) with hi | ⟨spec, hi⟩
        · exact h.inputs i hi
        · exact r.asked dep hdep _ _ _ _ hsplit (hl ▸ hin) i spec hi
  | _ => exact ⟨hacc, h.source, h.fields, h.inputs⟩

/-- Where one summand goes down by as much, the sum does. -/
theorem sum_add_le {U : List String} {v w : String → ℕ} {k : ℕ} (h : ∀ f, v f ≤ w f) (hm : name ∈ U)
    (hk : v name + k ≤ w name) : (U.map v).sum + k ≤ (U.map w).sum := by
  induction U with
  | nil => simp at hm
  | cons f rest ih =>
    simp only [List.map_cons, List.sum_cons]
    have hrest : (rest.map v).sum ≤ (rest.map w).sum := List.sum_le_sum fun f _ => h f
    rcases List.mem_cons.mp hm with rfl | hm
    · omega
    · have := ih hm
      have := h f
      omega

theorem ahead_le (hw : ∀ f, t.weight f ≤ s.weight f) (ha : t.asked = s.asked)
    (hm : t.fieldWaits.met.length + t.inputWaits.met.length ≤
      s.fieldWaits.met.length + s.inputWaits.met.length) : ahead r t ≤ ahead r s := by
  have hU : (r.fields.map t.weight).sum ≤ (r.fields.map s.weight).sum :=
    List.sum_le_sum fun f _ => hw f
  have hJ : t.askWeight = s.askWeight := by
    funext i
    simp only [askWeight, ha]
  simp only [ahead, hJ]
  omega

/-- To take a field from the work list takes it away from what is ahead. -/
theorem ahead_pop (h : Enclosed r ⟨s, hand, none⟩) (hn : name ∈ s.unattempted) :
    ahead r { s with unattempted := s.unattempted.erase name } < ahead r s := by
  have ha : name ∈ s.attempted := (h.accounted.step (.pop hn)).attempted_current
  have hsum := sum_add_le (U := r.fields) (k := 1)
    (v := { s with unattempted := s.unattempted.erase name }.weight) (w := s.weight)
    (fun f => ?_) (h.fields name ha) ?_
  · have hi : { s with unattempted := s.unattempted.erase name }.askWeight = s.askWeight := rfl
    simp only [ahead, hi]
    omega
  · simp only [weight, fresh_erase ha]
    by_cases he : f = name
    · simp [he]
    · simp [he]
  · simp only [weight, fresh_erase ha, fresh_of_mem hn, if_true]
    omega

theorem ahead_release :
    ahead r { s with fieldWaits := s.fieldWaits.releaseAll.2 } + s.fieldWaits.met.length =
      ahead r s := by
  have hw : { s with fieldWaits := s.fieldWaits.releaseAll.2 }.weight = s.weight := rfl
  have hi : { s with fieldWaits := s.fieldWaits.releaseAll.2 }.askWeight = s.askWeight := rfl
  simp only [ahead, hw, hi, Waitlist.met_releaseAll, List.length_nil]
  omega

theorem ahead_supply :
    ahead r { s with inputWaits := s.inputWaits.releaseAll.2 } + s.inputWaits.met.length =
      ahead r s := by
  have hw : { s with inputWaits := s.inputWaits.releaseAll.2 }.weight = s.weight := rfl
  have hi : { s with inputWaits := s.inputWaits.releaseAll.2 }.askWeight = s.askWeight := rfl
  simp only [ahead, hw, hi, Waitlist.met_releaseAll, List.length_nil]
  omega

/-- To commit a field takes away more than the release that is then ahead. -/
theorem ahead_commit (hU : name ∈ r.fields) (hn : s.values.has name = false)
    (hfresh : ∀ f, t.fresh f = s.fresh f)
    (hv : ∀ f, t.values.has f = (decide (f = name) || s.values.has f)) (ha : t.asked = s.asked)
    (hf : t.fieldWaits.met = s.fieldWaits.met ++ [name])
    (hw : t.inputWaits.met = s.inputWaits.met) : ahead r t < ahead r s := by
  have hsum := sum_add_le (U := r.fields) (k := 2) (v := t.weight) (w := s.weight)
    (fun f => ?_) hU ?_
  · have hJ : t.askWeight = s.askWeight := by
      funext i
      simp only [askWeight, ha]
    simp only [ahead, hJ, hf, hw, List.length_append, List.length_singleton]
    omega
  · simp only [weight, hfresh, hv]
    by_cases he : f = name
    · simp [he]
    · simp [he]
  · simp [weight, hfresh, hv, hn]

/-- To ask for an input takes away more than the release that may then be ahead. -/
theorem ahead_answer {question : Question} {raw : Option String} (h : Enclosed r ⟨s, hand, none⟩)
    (hq : s.Asks question) (ha : Answers s question raw t) : ahead r t < ahead r s := by
  have hasked : t.asked = s.asked.insert question.name := by cases ha <;> rfl
  have hw : t.weight = s.weight := by cases ha <;> rfl
  have hf : t.fieldWaits.met = s.fieldWaits.met := by cases ha <;> rfl
  have hm : t.inputWaits.met.length ≤ s.inputWaits.met.length + 1 := by
    cases ha with
    | refused => exact Nat.le_succ _
    | accepted => simp
  have hJ : question.name ∈ r.inputs :=
    h.inputs _ (Name.mem_iff_getElem?.mpr ⟨_, hq.spec⟩)
  have hsum := sum_add_le (U := r.inputs) (k := 2) (v := t.askWeight) (w := s.askWeight)
    (fun j => ?_) hJ ?_
  · simp only [ahead, hw, hf]
    omega
  · simp only [askWeight, hasked, Name.mem_insert]
    by_cases hj : j ∈ s.asked
    · simp [hj]
    · simp only [hj, or_false, if_false]
      split <;> omega
  · simp [askWeight, hasked, hq.new]

/-- No change adds to what is ahead. -/
theorem ahead_step (h : Enclosed r p) (hs : Step p p') :
    ahead r p'.solver ≤ ahead r p.solver := by
  cases hs with
  | pop hn => exact (ahead_pop h hn).le
  | @commit s hand name value hv hy =>
    apply le_of_lt
    exact ahead_commit (h.fields name h.accounted.attempted_current) hv (fun _ => rfl)
      (fun f => ValueStore.has_commit) rfl rfl rfl
  | @wait s t hand name dep hv hy hd hp =>
    obtain ⟨new, hg, -⟩ := hd.grows
    have hvals : t.values = s.values := hg.values
    have hf : t.fieldWaits.met = s.fieldWaits.met := congrArg Waitlist.met hg.fieldWaits
    have hi : t.inputWaits.met = s.inputWaits.met := congrArg Waitlist.met hg.inputWaits
    refine ahead_le (fun f => ?_) hg.asked (by simp only [Waitlist.add, hf, hi, le_refl])
    have hfresh : t.fresh f = s.fresh f := fresh_grows (s := s.log name) hg
    exact (show t.weight f = s.weight f by simp only [weight, hfresh, hvals]).le
  | release => exact Nat.le.intro ahead_release
  | supply => exact Nat.le.intro ahead_supply
  | @refuse s hand input spec hc hr ha hw hs =>
    have hq : s.Asks ⟨input, spec, s.inputWaits.waiters input⟩ := ⟨hc, hr, ha, hw, hs, rfl⟩
    exact (ahead_answer h hq .refused).le
  | @accept s hand input spec value raw new inputs hc hr ha hw hs hp hg =>
    have hq : s.Asks ⟨input, spec, s.inputWaits.waiters input⟩ := ⟨hc, hr, ha, hw, hs, rfl⟩
    exact (ahead_answer h hq (.accepted hp hg)).le
  | _ => exact ahead_le (fun _ => le_rfl) rfl le_rfl

section ends

variable {σ : Type} {ask : Question → StateM σ (Option String)} {w : σ} {k : ℕ} {stage : Stage}
  {L names : List String}

/-- A run that comes to an end, with what somebody answers. -/
def Ends (ask : Question → StateM σ (Option String)) (m : Move) (w : σ) : Prop :=
  ∃ n, ∀ u, ((follow ask n m).run w).1 ≠ .unfinished u

/-- Wherever a run comes to, fields wait for names of a list only. -/
def Confined (L : List String) (ask : Question → StateM σ (Option String)) (m : Move) (w : σ) :
    Prop :=
  ∀ n u, ((follow ask n m).run w).1 = .unfinished u → WaitsIn L u

theorem ends_finished : Ends ask (.finished s) w := ⟨0, fun _ => nofun⟩

theorem ends_failed {e : TaxError} : Ends ask (.failed e s) w := ⟨0, fun _ => nofun⟩

/-- With nothing on the work list and nothing met a round comes to the questions at once. -/
theorem move_attempting (hl : s.unattempted.toList = []) (hf : s.fieldWaits.met = []) :
    Run.move ⟨s, .attempting⟩ = .next ⟨s, .releasing []⟩ := by
  simp only [Run.move, hl, Waitlist.releaseAll_of_met hf]

theorem Ends.next (h : Ends ask run.move w) : Ends ask (.next run) w := by
  obtain ⟨n, h⟩ := h
  exact ⟨n + 1, h⟩

theorem Ends.answer {question : Question}
    (h : Ends ask (run.answer question ((ask question).run w).1) ((ask question).run w).2) :
    Ends ask (.ask question run) w := by
  obtain ⟨n, h⟩ := h
  exact ⟨n + 1, h⟩

theorem Confined.move (h : Confined L ask (.next run) w) : Confined L ask run.move w :=
  fun n => h (n + 1)

theorem Confined.answer {question : Question} (h : Confined L ask (.ask question run) w) :
    Confined L ask (run.answer question ((ask question).run w).1) ((ask question).run w).2 :=
  fun n => h (n + 1)

/-- Less than so much is ahead, as far as fields wait for names of the range. -/
def Remains (r : Range library) (k : ℕ) (p : Point) : Prop :=
  WaitsIn r.unmet p.solver → Enclosed r p ∧ ahead r p.solver < k

theorem Remains.turn (hs : WaitsIn r.unmet s) (h : Remains r k p) (ht : Turn s p p') :
    Remains r k p' := by
  intro hw
  obtain ⟨unattempted, waitingOn, refused, hp⟩ := ht.alike
  obtain ⟨he, hlt⟩ := h (by rw [hp]; exact hs)
  exact ⟨enclosed_step he hw ht.step, (ahead_step he ht.step).trans_lt hlt⟩

/-- Less than so much is ahead of a run whose fields wait for names of the range. -/
structure Ready (r : Range library) (ask : Question → StateM σ (Option String)) (k : ℕ) (m : Move)
    (w : σ) : Prop where
  within : m.Within (Remains r k) (fun _ _ => True) []
  confined : Confined r.unmet ask m w

namespace Ready

theorem waitsIn (h : Ready r ask k (.next run) w) : WaitsIn r.unmet run.solver :=
  h.confined 0 run.solver rfl

theorem remains (h : Ready r ask k (.next run) w) :
    Enclosed r (run.point []) ∧ ahead r run.solver < k := by
  cases h.within with
  | next _ hi => exact hi h.waitsIn

theorem move (h : Ready r ask k (.next run) w) : Ready r ask k run.move w where
  within := by
    cases h.within with
    | next hf hi =>
      exact Run.move_within hf hi (fun _ _ => .turn h.waitsIn) fun _ _ _ _ _ => trivial
  confined := h.confined.move

theorem answer {question : Question} (h : Ready r ask (k + 1) (.ask question run) w) :
    Ready r ask k (run.answer question ((ask question).run w).1) ((ask question).run w).2 where
  within := by
    have hw := h.confined 0 run.solver rfl
    cases h.within with
    | @ask question s inputs hf hq hi =>
      obtain ⟨he, hlt⟩ := hi hw
      refine Run.answer_within _ hf hq (fun t ht hw => ?_) (fun _ _ _ _ _ => trivial)
        fun _ _ => .turn hw
      have hless := ahead_answer he hq ht
      refine ⟨enclosed_step he hw (hq.step ht), ?_⟩
      exact Nat.lt_of_lt_of_le hless (Nat.le_of_lt_succ hlt)
  confined := h.confined.answer

/-- To take a field from the work list takes away from what is ahead. -/
theorem pop {name : String} {rest : List String}
    (h : Ready r ask (k + 1) (.next ⟨s, .attempting⟩) w)
    (hl : s.unattempted.toList = name :: rest) : Ready r ask k (Run.move ⟨s, .attempting⟩) w := by
  refine ⟨?_, h.confined.move⟩
  have hn : name ∈ s.unattempted := by
    rw [← Std.ExtTreeSet.mem_toList, hl]
    exact List.mem_cons_self
  obtain ⟨he, hlt⟩ := h.remains
  have hpop : Remains r k ⟨{ s with unattempted := s.unattempted.erase name }, [], some name⟩ :=
    fun hw => ⟨enclosed_step he hw (.pop hn),
      (ahead_pop he hn).trans_le (Nat.le_of_lt_succ hlt)⟩
  simp only [Run.move, hl]
  exact goOn_within (by simp) hpop ⟨_, _, _, rfl⟩ (fun _ _ => .turn h.waitsIn)
    fun _ _ _ _ _ => trivial

/-- To release the fields takes away the names met from what is ahead. -/
theorem release (h : Ready r ask (k + 1) (.next ⟨s, .attempting⟩) w)
    (hl : s.unattempted.toList = []) (hm : s.fieldWaits.met ≠ []) :
    Ready r ask k (Run.move ⟨s, .attempting⟩) w := by
  refine ⟨?_, h.confined.move⟩
  obtain ⟨he, hlt⟩ := h.remains
  simp only [Run.move, hl]
  refine .next (Run.fits_of_stage (by simp)) fun hw => ⟨enclosed_step he hw .release, ?_⟩
  have hpos := List.length_pos_iff.mpr hm
  have hsame := ahead_release (r := r) (s := s)
  simp only [Run.point] at hlt ⊢
  omega

/-- To hand over the waiters takes away the names met from what is ahead. -/
theorem supply (h : Ready r ask (k + 1) (.next ⟨s, stage⟩) w)
    (hmove : Run.move ⟨s, stage⟩ = s.supply) (hhand : stage.hand = [])
    (hm : s.inputWaits.met ≠ []) : Ready r ask k s.supply w := by
  obtain ⟨he, hlt⟩ := h.remains
  refine ⟨.next (Run.fits_of_stage (by simp)) fun hw => ?_, hmove ▸ h.confined.move⟩
  simp only [Run.point, hhand] at he
  have hpos := List.length_pos_iff.mpr hm
  have hsame := ahead_supply (r := r) (s := s)
  have hless : ahead r { s with inputWaits := s.inputWaits.releaseAll.2 } < k := by
    simp only at hlt
    omega
  exact ⟨enclosed_step he hw .supply, hless⟩

end Ready

/-- Fields that are held are evaluated one after another, until something fails or none is left. -/
theorem ends_drain (stage : List String → Stage)
    (hmove : ∀ s name rest, Run.move ⟨s, stage (name :: rest)⟩ =
      Changed.goOn (stage rest) (s.resume name))
    (hend : ∀ t, Ready r ask k (.next ⟨t, stage []⟩) w → Ends ask (.next ⟨t, stage []⟩) w)
    (h : Ready r ask k (.next ⟨s, stage names⟩) w) : Ends ask (.next ⟨s, stage names⟩) w := by
  induction names generalizing s with
  | nil => exact hend s h
  | cons name rest ih =>
    refine .next ?_
    have hm := h.move
    rw [hmove] at hm ⊢
    cases hr : s.resume name with
    | ok t =>
      rw [hr] at hm
      exact ih hm
    | error => exact ends_failed

section less

variable (hless : ∀ m w, Ready r ask k m w → Ends ask m w)

include hless

/-- Either an input is asked for, or all have been asked for before. -/
theorem ends_asking (h : Ready r ask (k + 1) (.next ⟨s, .asking names⟩) w)
    (hend : (∀ i ∈ names, i ∈ s.asked) → Ready r ask (k + 1) (.next ⟨s, .asking []⟩) w →
      Ends ask (.next ⟨s, .asking []⟩) w) : Ends ask (.next ⟨s, .asking names⟩) w := by
  induction names with
  | nil => exact hend (by simp) h
  | cons i rest ih =>
    refine .next ?_
    have hm := h.move
    by_cases ha : i ∈ s.asked
    · have hmove : Run.move ⟨s, .asking (i :: rest)⟩ = .next ⟨s, .asking rest⟩ := by
        simp [Run.move, ha]
      rw [hmove] at hm ⊢
      exact ih hm fun hall => hend (List.forall_mem_cons.mpr ⟨ha, hall⟩)
    · cases hs : s.inputSpecs[i]? with
      | none =>
        simp only [Run.move, Name.contains_eq_false.mpr ha, hs]
        exact ends_failed
      | some spec =>
        simp only [Run.move, Name.contains_eq_false.mpr ha, hs] at hm ⊢
        exact .answer (hless _ _ hm.answer)

/-- A round either finds nothing to do or takes something away. -/
theorem ends_round (h : Ready r ask (k + 1) (.next ⟨s, .round⟩) w) :
    Ends ask (.next ⟨s, .round⟩) w := by
  refine .next ?_
  have hm := h.move
  by_cases hw : s.hasWork
  case neg =>
    simp only [Run.move, hw]
    exact ends_finished
  have hmove : Run.move ⟨s, .round⟩ = .next ⟨s, .attempting⟩ := by simp [Run.move, hw]
  rw [hmove] at hm ⊢
  refine .next ?_
  cases hl : s.unattempted.toList with
  | cons name rest => exact hless _ _ (hm.pop hl)
  | nil =>
    by_cases hf : s.fieldWaits.met = []
    case neg => exact hless _ _ (hm.release hl hf)
    have hm := hm.move
    rw [move_attempting hl hf] at hm ⊢
    refine .next ?_
    by_cases ha : s.mayAsk
    · have hm := hm.move
      simp only [Run.move, ha, if_true] at hm ⊢
      refine ends_asking hless hm fun hall => absurd ha ?_
      simp only [mayAsk, Bool.and_eq_true, List.any_eq_true, not_and, not_exists]
      rintro - i hi hn
      exact Name.contains_eq_false.mp (by simpa using hn) (hall i hi)
    · have hmove : Run.move ⟨s, .releasing []⟩ = s.supply := by simp [Run.move, ha]
      rw [hmove]
      refine hless _ _ (hm.supply hmove rfl fun hi => ?_)
      have hu : s.unattempted = ∅ := by simpa using hl
      simp [hasWork, hu, Waitlist.hasMet, hf, hi, ha] at hw

theorem ends_supply (h : Ready r ask (k + 1) (.next ⟨s, stage⟩) w)
    (hmove : Run.move ⟨s, stage⟩ = s.supply) (hhand : stage.hand = []) : Ends ask s.supply w := by
  by_cases hm : s.inputWaits.met = []
  · have hs := h.move
    rw [hmove] at hs
    simp only [Solver.supply, Waitlist.releaseAll_of_met hm] at hs ⊢
    exact .next (ends_round hless hs.move)
  · exact hless _ _ (h.supply hmove hhand hm)

theorem ends_asked (h : Ready r ask (k + 1) (.next ⟨s, .asking names⟩) w) :
    Ends ask (.next ⟨s, .asking names⟩) w :=
  ends_asking hless h fun _ h => .next (ends_supply hless h rfl rfl)

theorem ends_releasing (h : Ready r ask (k + 1) (.next ⟨s, .releasing names⟩) w) :
    Ends ask (.next ⟨s, .releasing names⟩) w := by
  refine ends_drain .releasing (fun _ _ _ => rfl) (fun t ht => .next ?_) h
  by_cases ha : t.mayAsk
  · have hm := ht.move
    simp only [Run.move, ha, if_true] at hm ⊢
    exact ends_asked hless hm
  · have hmove : Run.move ⟨t, .releasing []⟩ = t.supply := by simp [Run.move, ha]
    rw [hmove]
    exact ends_supply hless ht hmove rfl

end less

/-- A run of which all that is ahead lies within a range comes to an end. -/
theorem ends_of_ready (h : Ready r ask k m w) : Ends ask m w := by
  induction k generalizing m w with
  | zero =>
    cases m with
    | next run => exact absurd h.remains.2 (Nat.not_lt_zero _)
    | ask question run =>
      cases h.within with
      | @ask _ s _ _ _ hi =>
        exact absurd (hi (h.confined 0 (s.asking question) rfl)).2 (Nat.not_lt_zero _)
    | finished s => exact ends_finished
    | failed e s => exact ends_failed
  | succ k ih =>
    have hless : ∀ m w, Ready r ask k m w → Ends ask m w := fun m w => ih
    cases m with
    | finished s => exact ends_finished
    | failed e s => exact ends_failed
    | ask question run => exact .answer (hless _ _ h.answer)
    | next run =>
      obtain ⟨s, stage⟩ := run
      cases stage with
      | round => exact ends_round hless h
      | releasing names => exact ends_releasing hless h
      | asking names => exact ends_asked hless h
      | supplying names =>
        exact ends_drain .supplying (fun _ _ _ => rfl)
          (fun t ht => .next (ends_round hless ht.move)) h
      | attempting =>
        refine .next ?_
        cases hl : s.unattempted.toList with
        | cons name rest => exact hless _ _ (h.pop hl)
        | nil =>
          have hm := h.move
          simp only [Run.move, hl] at hm ⊢
          exact ends_releasing hless hm

end ends

/-- The form that a field belongs to by its name, and the name of the instance. -/
def formOf? (library : Library) (d : String) : Option (FormName × Form) := do
  let (q, _) ← Name.split d
  (library.instantiate q).toOption

/-- The forms that the names of a list belong to. -/
def formsOf (library : Library) (L : List String) : List (FormName × Form) :=
  L.filterMap (formOf? library)

theorem mem_formsOf {base : String} {name : FormName} {form : Form} {L : List String} (hd : d ∈ L)
    (hs : Name.split d = some (q, base)) (hi : library.instantiate q = .ok (name, form)) :
    (name, form) ∈ formsOf library L :=
  List.mem_filterMap.mpr ⟨d, hd, by simp [formOf?, hs, hi, Except.toOption]⟩

/-- The range of what a solver has found and of what the names of a list bring along. -/
def rangeOf (s : Solver) (L : List String) : Range s.library where
  unmet := L
  fields := s.attempted.toList ++ L ++
    (formsOf s.library L).flatMap fun p => p.2.requiredAs p.1
  inputs := s.inputSpecs.keys ++
    (formsOf s.library L).flatMap fun p => (p.2.inputsAs p.1).map (·.1)
  needed d hd := by simp [hd]
  required d hd q base name form hs hi f hf := by
    refine List.mem_append_right _ (List.mem_flatMap.mpr ⟨_, mem_formsOf hd hs hi, hf⟩)
  asked d hd q base name form hs hi i spec hin := by
    refine List.mem_append_right _ (List.mem_flatMap.mpr ⟨_, mem_formsOf hd hs hi, ?_⟩)
    exact List.mem_map.mpr ⟨_, Name.mem_of_getElem?_insertMany hin, rfl⟩

theorem enclosed_rangeOf {L : List String} (h : Accounted ⟨s, [], none⟩) :
    Enclosed (rangeOf s L) ⟨s, [], none⟩ where
  accounted := h
  source := rfl
  fields f hf := by simp [rangeOf, hf]
  inputs i hi := by simp [rangeOf, hi]

section solve

variable {σ : Type} {ask : Question → StateM σ (Option String)} {w : σ} {L : List String}

theorem exists_ending (h : Accounted ⟨s, [], none⟩)
    (hL : ∀ n u, ((s.solve ask n).run w).1 = .unfinished u → WaitsIn L u) :
    ∃ n, ∀ u, ((s.solve ask n).run w).1 ≠ .unfinished u := by
  have he : Enclosed (rangeOf s L) ⟨s, [], none⟩ := enclosed_rangeOf h
  refine ends_of_ready (r := rangeOf s L) (k := ahead (rangeOf s L) s + 1) ⟨?_, hL⟩
  exact .next (Run.fits_of_stage (by simp)) fun _ => ⟨he, Nat.lt_succ_self _⟩

/-- A solve ends where the names that fields wait for are finitely many, whoever answers and
whatever the value functions are. A name that is raised is waited for, unless raising it is an
error. However often forms are asked for and solved, a field is evaluated once, and once more for
every name that it was seen to wait for, which bounds the evaluations by the fields and inputs
there are. -/
theorem solve_bounded (h : Chronicle (initial library inputs canAsk) calls l s)
    (ask : Question → StateM σ (Option String)) (w : σ) :
    (∀ L, (∀ n u, ((s.solve ask n).run w).1 = .unfinished u → WaitsIn L u) →
      ∃ n, ∀ u, ((s.solve ask n).run w).1 ≠ .unfinished u) ∧
    ∀ n,
      let u := ((s.solve ask n).run w).1.solver
      let all := l ++ diary ask n (.next ⟨s, .round⟩) w
      (∀ f, u.evaluated.count f ≤
        1 + (fieldsParkedOn all f).card + (inputsParkedOn all f).card) ∧
      u.evaluated.length ≤
        u.registeredFields.card * (1 + u.registeredFields.card + u.inputSpecs.size) := by
  have hI : Keeps (Tallied library inputs) := keeps_tallied
  have ht := hI.chronicle h tallied_initial
  refine ⟨fun L => exists_ending ht.accounted, fun n => ?_⟩
  obtain ⟨hand, hu, -⟩ := hI.solve ask n w ht
  exact hu.bounded

end solve

section raises

variable {L : List String} {known : Name.Table InputSpec}
  (hL : ∀ inputs values f d, library.Evaluates inputs values f (.error (.unmet d)) → d ∈ L)

include hL

theorem waitsIn_step (hr : Registered library known p.solver) (hw : WaitsIn L p.solver)
    (hs : Step p p') : WaitsIn L p'.solver := by
  intro d f hf
  cases hs with
  | @wait s t hand name dep hv hy hd hp =>
    obtain ⟨new, hg, -⟩ := hd.grows
    have ht : t.fieldWaits = s.fieldWaits := hg.fieldWaits
    rcases Waitlist.mem_waiters_add.mp hf with hf | ⟨-, rfl⟩
    · exact hw d f (ht ▸ hf)
    · exact hL _ _ _ _ (hr.evaluates hy)
  | release =>
    simp only [Waitlist.waiters_releaseAll] at hf
    split at hf
    · simp at hf
    · exact hw d f hf
  | _ => exact hw d f hf

theorem waitsIn_steps (hr : Registered library known p.solver) (hw : WaitsIn L p.solver)
    (hs : Steps p p') : Registered library known p'.solver ∧ WaitsIn L p'.solver :=
  hs.preserves (I := fun p => Registered library known p.solver ∧ WaitsIn L p.solver)
    (fun _ _ hp hs => ⟨registered_step hp.1 hs, waitsIn_step hL hp.1 hp.2 hs⟩) ⟨hr, hw⟩

/-- Where the value functions of a library raise names of a list only, fields wait for no others. -/
theorem waitsIn_of_unfinished {σ : Type} {ask : Question → StateM σ (Option String)} {w : σ} {n : ℕ}
    (hr : Registered library known s) (hw : WaitsIn L s)
    (hu : ((s.solve ask n).run w).1 = .unfinished t) : WaitsIn L t := by
  obtain ⟨p, hs, rfl | ⟨question, rfl⟩⟩ := exists_steps_of_unfinished hu []
  · exact (waitsIn_steps hL hr hw hs).2
  · exact (waitsIn_steps hL hr hw hs).2

end raises

/-- A return of an amount that is never satisfied with the one that it reads. -/
def insatiableAmount : Library where
  year := 2023
  forms := [{
    name := "a"
    required := [⟨"1", .decimal 2, fun _ => .error (.unmet "a.2")⟩]
    optional := [Line.money "2" (pure 0)] }]

theorem mem_of_raised_insatiable (inputs : InputStore) (values : ValueStore) (f d : String)
    (h : insatiableAmount.Evaluates inputs values f (.error (.unmet d))) : d ∈ ["a.2"] := by
  obtain ⟨q, base, name, form, field, hs, hi, hb, he⟩ := h
  have hform := Library.mem_forms_of_instantiate hi
  have hfield : field ∈ form.fields := List.mem_of_find?_eq_some hb
  rw [Field.evaluate_eq_error (by simp)] at he
  simp only [insatiableAmount, List.mem_singleton] at hform
  subst hform
  simp only [Form.fields, List.cons_append, List.nil_append, List.mem_cons, List.not_mem_nil,
    or_false] at hfield
  rcases hfield with rfl | rfl
  · cases he
    simp
  · cases he

/-- A field that goes on to raise a name that is committed is evaluated no more often for it. -/
theorem solve_bounded_insatiable : ∃ s,
    Chronicle (initial insatiableAmount (.ofSections .empty) true) [(.addForm "a", .added)] [] s ∧
    (∃ n, ∀ u, ((s.solve (m := StateM Unit) (fun _ => pure none) n).run ()).1 ≠ .unfinished u) ∧
    ∀ n,
      let u := ((s.solve (m := StateM Unit) (fun _ => pure none) n).run ()).1.solver
      let all := diary (fun _ => pure none) n (.next ⟨s, .round⟩) ()
      (∀ f, u.evaluated.count f ≤
        1 + (fieldsParkedOn all f).card + (inputsParkedOn all f).card) ∧
      u.evaluated.length ≤
        u.registeredFields.card * (1 + u.registeredFields.card + u.inputSpecs.size) := by
  obtain ⟨s, ha⟩ :
      ∃ s, (initial insatiableAmount (.ofSections .empty) true).addForm "a" = .ok s := by
    have hok : ((initial insatiableAmount (.ofSections .empty) true).addForm "a").isOk := by
      decide +kernel
    cases ha : (initial insatiableAmount (.ofSections .empty) true).addForm "a" with
    | ok s => exact ⟨s, rfl⟩
    | error e => simp [ha, Except.isOk, Except.toBool] at hok
  have h : Chronicle _ [(.addForm "a", .added)] [] s := Chronicle.start.added ha
  have hw : WaitsIn ["a.2"] s := by
    obtain ⟨new, hg⟩ := addForm_grows ha
    simp [WaitsIn, hg.fieldWaits, initial]
  obtain ⟨hends, hbound⟩ := solve_bounded h (fun _ => pure none) ()
  refine ⟨s, h, hends ["a.2"] fun n u hu => ?_, hbound⟩
  exact waitsIn_of_unfinished mem_of_raised_insatiable h.session.registered hw hu

end TaxReturn.Solver
