import TaxReturn.Proofs.Solver.Ledger

/-! Where an evaluation ends a solve with an error, the fields that the solve held stand nowhere
any more. Nothing evaluates them again, and nothing counts them as outstanding. -/
namespace TaxReturn.Solver

variable {s t : Solver} {p p' : Point} {f q : String} {lost : List String} {run : Run} {m m' : Move}
  {library : Library} {inputs : InputStore} {canAsk : Bool} {calls : List (Call × Reply)}
  {e : TaxError}

/-- A field that was to be solved once and stands in no place. -/
def Lost (s : Solver) (f : String) : Prop := f ∈ s.attempted ∧ s.places f = 0

theorem Balanced.lost_iff (h : Balanced ⟨s, lost, none⟩) : s.Lost f ↔ f ∈ lost := by
  have hp := h.places f
  simp only [Point.held, Option.toList, List.nil_append] at hp
  constructor
  · rintro ⟨ha, h0⟩
    rw [h0, Std.ExtTreeSet.contains_iff_mem.mpr ha, Bool.toNat_true] at hp
    exact List.count_pos_iff.mp (by omega)
  · intro hf
    have h1 := List.count_pos_iff.mpr hf
    have h2 := Bool.toNat_le (s.attempted.contains f)
    refine ⟨Std.ExtTreeSet.contains_iff_mem.mp ?_, by omega⟩
    cases hc : s.attempted.contains f with
    | true => rfl
    | false =>
      rw [hc, Bool.toNat_false] at hp
      omega

/-- The fields that the next move of a run takes into its hands or holds already. -/
def Run.inHand (run : Run) : List String :=
  match run.stage with
  | .attempting => run.solver.unattempted.toList.head?.toList
  | stage => stage.hand

def Move.inHand : Move → List String
  | .next run => run.inHand
  | _ => []

theorem balanced_goOn {stage : Stage} {name : String}
    (h : Balanced ⟨s, stage.hand ++ lost, some name⟩)
    (hf : Changed.goOn stage (s.evaluate name) = .failed e t) :
    Balanced ⟨t, name :: stage.hand ++ lost, none⟩ := by
  have hs := evaluate_spec s name (stage.hand ++ lost)
  cases he : s.evaluate name with
  | ok u =>
    rw [he] at hf
    cases hf
  | error x =>
    rw [he] at hf hs
    cases hf
    exact balanced_fails h hs

/-- A move that fails lets go of what it holds. -/
theorem balanced_move_failed (h : Balanced (run.point lost)) (hf : run.move = .failed e t) :
    Balanced ⟨t, run.inHand ++ lost, none⟩ := by
  obtain ⟨s, stage⟩ := run
  cases stage with
  | round =>
    simp only [Run.move] at hf
    split at hf <;> cases hf
  | attempting =>
    simp only [Run.move] at hf
    split at hf
    · rename_i name rest hl
      have hn : name ∈ s.unattempted := by
        rw [← Std.ExtTreeSet.mem_toList, hl]
        exact List.mem_cons_self
      have := balanced_goOn (balanced_step h (.pop hn)) hf
      simpa [Run.inHand, hl, Stage.hand] using this
    · cases hf
  | releasing fields =>
    cases fields with
    | cons name rest => exact balanced_goOn (balanced_step h .resume) hf
    | nil =>
      simp only [Run.move] at hf
      split at hf <;> cases hf
  | supplying fields =>
    cases fields with
    | cons name rest => exact balanced_goOn (balanced_step h .resume) hf
    | nil => cases hf
  | asking inputs =>
    cases inputs with
    | nil => cases hf
    | cons input rest =>
      simp only [Run.move] at hf
      split at hf
      · cases hf
      · split at hf <;> cases hf
        exact ⟨h.places, h.waits⟩

theorem Balanced.asked {hand : List String} {asked : Name.Set} (h : Balanced ⟨s, hand, none⟩) :
    Balanced ⟨{ s with asked }, hand, none⟩ := ⟨h.places, h.waits⟩

/-- An answer that fails comes while nothing is held. -/
theorem balanced_answer_failed {question : Question} {raw : Option String} {names : List String}
    (h : Balanced ⟨s, lost, none⟩)
    (hf : Run.answer ⟨s, .asking names⟩ question raw = .failed e t) :
    Balanced ⟨t, lost, none⟩ := by
  cases raw with
  | none => cases hf
  | some raw =>
    simp only [Run.answer] at hf
    split at hf
    · cases hf
      exact h
    · split at hf <;> cases hf
      exact h

/-- What a failing move lets go of is lost, and nothing else. -/
theorem lost_of_failed (hb : Balanced ⟨s, lost, none⟩) (hm : m.From ⟨s, lost, none⟩ lost)
    (hg : Goes m (.failed e t)) (f : String) : t.Lost f ↔ s.Lost f ∨ f ∈ m.inHand := by
  rw [hb.lost_iff]
  generalize hm' : Move.failed e t = m' at hg
  cases hg with
  | move =>
    cases hm with
    | next hf hs =>
      rw [(balanced_move_failed (balanced_steps hb hs) hm'.symm).lost_iff]
      simp [Move.inHand, or_comm]
  | answer raw =>
    cases hm with
    | ask hf hq hs =>
      rw [(balanced_answer_failed (balanced_steps hb hs).asked hm'.symm).lost_iff]
      simp [Move.inHand]

/-- Only the end of a solve says whether it is solved. -/
theorem solved_step (h : Step p p') : p'.solver.solved = p.solver.solved := by
  cases h with
  | wait hv hy hd hp =>
    obtain ⟨new, hg, -⟩ := hd.grows
    exact hg.solved
  | _ => rfl

theorem solved_steps (h : Steps p p') : p'.solver.solved = p.solver.solved :=
  h.preserves (fun _ _ he hs => (solved_step hs).trans he) rfl

theorem solved_fails (h : Fails p e t) : t.solved = p.solver.solved := by
  cases h with
  | missed hv hy hd =>
    obtain ⟨new, hg⟩ := (misses_of_discover hd).grows
    exact hg.solved
  | cyclic hv hy hd hp =>
    obtain ⟨new, hg, -⟩ := hd.grows
    exact hg.solved
  | _ => rfl

theorem Lost.has_eq_false (h : s.Lost f) : s.values.has f = false := by
  obtain ⟨-, h0⟩ := h
  cases hv : s.values.has f with
  | false => rfl
  | true =>
    simp only [places, hv, Bool.toNat_true] at h0
    omega

/-- A solve that returns loses nothing, and passes over what was lost before. -/
theorem lost_of_returned {b : Bool} (hb : Balanced ⟨s, lost, none⟩)
    (hr : Replies s .solve (.returned b) t) :
    t.solved = b ∧ (∀ f, t.Lost f ↔ s.Lost f) ∧
      (b = true ↔ ∀ f ∈ t.attempted, t.values.has f ∨ t.Lost f) := by
  cases hr with
  | returned hr =>
    cases from_round s lost (leads_of_solve_finished hr) with
    | @finished u hs hw =>
      have hbu := balanced_steps hb hs
      have hbt : Balanced ⟨u.finish, lost, none⟩ := ⟨hbu.places, hbu.waits⟩
      refine ⟨rfl, fun f => by rw [hbt.lost_iff, hb.lost_iff], ?_⟩
      rw [solved_finish_iff hbu hw]
      simp only [hbt.lost_iff, or_comm]
      exact Iff.rfl

/-- A solve that fails loses what the failing move held, and leaves it open whether the return is
solved. -/
theorem lost_of_failed_solve (hb : Balanced ⟨s, lost, none⟩)
    (hr : Replies s .solve (.failed e) t) :
    t.solved = s.solved ∧
      ∃ m, Leads (.next ⟨s, .round⟩) m ∧ Goes m (.failed e t) ∧
        ∀ f, t.Lost f ↔ s.Lost f ∨ f ∈ m.inHand := by
  cases hr with
  | failed hr =>
    have hleads := leads_of_solve_failed hr
    rcases Relation.ReflTransGen.cases_tail hleads with he | ⟨m, hm, hg⟩
    · cases he
    obtain ⟨p', hs, hf⟩ := exists_fails_of_failed hr lost
    exact ⟨(solved_fails hf).trans (solved_steps hs), m, hm, hg,
      lost_of_failed hb (from_round s lost hm) hg⟩

/-- A form that is asked for loses nothing. -/
theorem lost_of_added (hb : Balanced ⟨s, lost, none⟩) (hr : Replies s (.addForm q) .added t) :
    t.solved = s.solved ∧ ∀ f, t.Lost f ↔ s.Lost f := by
  cases hr with
  | added ha =>
    refine ⟨?_, fun f => by rw [(balanced_addForm hb ha).lost_iff, hb.lost_iff]⟩
    obtain ⟨new, hg⟩ := addForm_grows ha
    exact hg.solved

/-- A field that the forms taken up require. -/
def Requires (s : Solver) (f : String) : Prop :=
  ∃ (q : String) (name : FormName) (form : Form), s.forms[q]? = some form ∧
    s.library.instantiate q = .ok (name, form) ∧ f ∈ form.requiredAs name

theorem Registered.attempted_of_requires {known : Name.Table InputSpec}
    (h : Registered library known s) (hf : s.Requires f) : f ∈ s.attempted := by
  obtain ⟨q, name, form, hq, hi, hf⟩ := hf
  rw [h.source] at hi
  exact h.required q name form hq hi f hf

/-- A solve that reports success has committed every required field that no failed call has let go
of, and only those. A form that is asked for and a solve that returns lose nothing; a solve that
fails loses what the failing move held, and says nothing about whether the return is solved. -/
theorem success_over_lost (h : Session (initial library inputs canAsk) calls s) :
    (∀ b t, Replies s .solve (.returned b) t →
      t.solved = b ∧ (∀ f, t.Lost f ↔ s.Lost f) ∧
      (b = true ↔ ∀ f ∈ t.attempted, t.values.has f ∨ t.Lost f) ∧
      (b = true → ((∀ f, t.Requires f → t.values.has f) ↔ ∀ f, t.Requires f → ¬ s.Lost f))) ∧
    (∀ e t, Replies s .solve (.failed e) t →
      t.solved = s.solved ∧
      ∃ m, Leads (.next ⟨s, .round⟩) m ∧ Goes m (.failed e t) ∧
        ∀ f, t.Lost f ↔ s.Lost f ∨ f ∈ m.inHand) ∧
    ∀ q t, Replies s (.addForm q) .added t →
      t.solved = s.solved ∧ ∀ f, t.Lost f ↔ s.Lost f := by
  obtain ⟨lost, hb, -⟩ := h.balanced
  refine ⟨fun b t hr => ?_, fun e t hr => lost_of_failed_solve hb hr,
    fun q t hr => lost_of_added hb hr⟩
  obtain ⟨hsolved, hlost, hall⟩ := lost_of_returned hb hr
  refine ⟨hsolved, hlost, hall, fun hb => ⟨fun hv f hf hls => ?_, fun hn f hf => ?_⟩⟩
  · have hno := ((hlost f).mpr hls).has_eq_false
    rw [hv f hf] at hno
    cases hno
  · have hreg : Registered library inputs.specs t := (h.call hr).registered
    rcases hall.mp hb f (hreg.attempted_of_requires hf) with hv | hls
    · exact hv
    · exact absurd ((hlost f).mp hls) (hn f hf)

/-- A form that is solved at once and one whose only line leaves the range of amounts. -/
def overflowing : Library where
  year := 2023
  forms := [
    { name := "a", required := [Line.money "1" (pure 0)] },
    { name := "b", required := [Line.money "1" (Compute.fail (.overflow "b.1"))] }]

/-- A call that failed still counts as solved, and the next one reports success over a required
line that has no value. -/
theorem success_over_lost_overflow :
    (∃ s, Session (initial overflowing (.ofSections .empty) false)
      [(.addForm "a", .added), (.solve, .returned true), (.addForm "b", .added),
        (.solve, .failed (.overflow "b.1"))] s ∧ s.solved = true) ∧
    ∃ s, Session (initial overflowing (.ofSections .empty) false)
      [(.addForm "a", .added), (.solve, .returned true), (.addForm "b", .added),
        (.solve, .failed (.overflow "b.1")), (.solve, .returned true)] s ∧
      (s.forms["b"]?.map fun form => form.required.map (·.name)) = some ["1"] ∧
      s.values.has "b.1" = false := by
  constructor
  · exact exists_session _ (fun _ => none) 20 _ Solver.solved true (by decide +kernel)
  · obtain ⟨s, hs, hl⟩ := exists_session (initial overflowing (.ofSections .empty) false)
      (fun _ => none) 20
      [(.addForm "a", .added), (.solve, .returned true), (.addForm "b", .added),
        (.solve, .failed (.overflow "b.1")), (.solve, .returned true)]
      (fun s => (s.forms["b"]?.map fun form => form.required.map (·.name), s.values.has "b.1"))
      (some ["1"], false) (by decide +kernel)
    exact ⟨s, hs, (Prod.mk.inj hl).1, (Prod.mk.inj hl).2⟩

/-- After the failed call, the line that failed is what a further solve passes over. -/
theorem success_over_lost_after_overflow :
    ∃ s, Session (initial overflowing (.ofSections .empty) false)
      [(.addForm "a", .added), (.solve, .returned true), (.addForm "b", .added),
        (.solve, .failed (.overflow "b.1"))] s ∧
      s.Lost "b.1" ∧
      ∀ t, Replies s .solve (.returned true) t → t.solved = true ∧ t.Lost "b.1" := by
  obtain ⟨s, hs, hl⟩ := exists_session (initial overflowing (.ofSections .empty) false)
    (fun _ => none) 20
    [(.addForm "a", .added), (.solve, .returned true), (.addForm "b", .added),
      (.solve, .failed (.overflow "b.1"))]
    (fun s => (s.attempted.contains "b.1", s.places "b.1")) (true, 0) (by decide +kernel)
  have hlost : s.Lost "b.1" :=
    ⟨Std.ExtTreeSet.contains_iff_mem.mp (Prod.mk.inj hl).1, (Prod.mk.inj hl).2⟩
  refine ⟨s, hs, hlost, fun t hr => ?_⟩
  obtain ⟨hsolved, hsame, -⟩ := (success_over_lost hs).1 true t hr
  exact ⟨hsolved, (hsame "b.1").mpr hlost⟩

end TaxReturn.Solver
