import TaxReturn.Proofs.Solver.Ledger

/-! A session with a record of all that its solves pass: the solver before every move, and the
answer to every question. A record is kept for whoever answers, and nobody sees it. -/
namespace TaxReturn.Solver

variable {s t : Solver} {p p' : Point} {run : Run} {m : Move} {l : List Moment}

/-- A solver as a run passes it, with the question that is put there and what is answered. -/
structure Moment where
  solver : Solver
  exchange : Option (Question × Option String)

/-- All that a run passes in up to the given number of moves, and where it comes to. -/
def diary {σ : Type} (ask : Question → StateM σ (Option String)) : Nat → Move → σ → List Moment
  | n + 1, .next run, w => ⟨run.solver, none⟩ :: diary ask n run.move w
  | n + 1, .ask question run, w =>
    let answered := (ask question).run w
    ⟨run.solver, some (question, answered.1)⟩ ::
      diary ask n (run.answer question answered.1) answered.2
  | _, m, _ => [⟨m.solver, none⟩]

/-- Calls one after another, with what each returned and all that the solves passed. -/
inductive Chronicle (start : Solver) : List (Call × Reply) → List Moment → Solver → Prop
  | start : Chronicle start [] [] start
  | added {calls l s t q} (h : Chronicle start calls l s) (ha : s.addForm q = .ok t) :
      Chronicle start (calls ++ [(.addForm q, .added)]) l t
  | refused {calls l s q e} (h : Chronicle start calls l s) (ha : s.addForm q = .error e) :
      Chronicle start (calls ++ [(.addForm q, .failed e)]) l s
  | returned {calls l s t} {σ : Type} {ask : Question → StateM σ (Option String)} {moves : Nat}
      {w w' : σ} (h : Chronicle start calls l s)
      (hr : (s.solve ask moves).run w = (.finished t, w')) :
      Chronicle start (calls ++ [(.solve, .returned t.solved)])
        (l ++ diary ask moves (.next ⟨s, .round⟩) w) t
  | failed {calls l s t e} {σ : Type} {ask : Question → StateM σ (Option String)} {moves : Nat}
      {w w' : σ} (h : Chronicle start calls l s)
      (hr : (s.solve ask moves).run w = (.failed e t, w')) :
      Chronicle start (calls ++ [(.solve, .failed e)])
        (l ++ diary ask moves (.next ⟨s, .round⟩) w) t

theorem Chronicle.session {start : Solver} {calls : List (Call × Reply)}
    (h : Chronicle start calls l s) : Session start calls s := by
  induction h with
  | start => exact .start
  | added h ha ih => exact ih.call (.added ha)
  | refused h ha ih => exact ih.call (.refused ha)
  | returned h hr ih => exact ih.call (.returned hr)
  | failed h hr ih => exact ih.call (.failed hr)

/-- Every session has a record. -/
theorem Session.exists_chronicle {start : Solver} {calls : List (Call × Reply)}
    (h : Session start calls s) : ∃ l, Chronicle start calls l s := by
  induction h with
  | start => exact ⟨[], .start⟩
  | call h hr ih =>
    obtain ⟨l, hl⟩ := ih
    cases hr with
    | added ha => exact ⟨_, hl.added ha⟩
    | refused ha => exact ⟨_, hl.refused ha⟩
    | returned hr => exact ⟨_, hl.returned hr⟩
    | failed hr => exact ⟨_, hl.failed hr⟩

/-- What is kept of a record and of where a solve stands after it. Between calls nothing is held,
and what a failed call held is let go of. -/
structure Keeps (I : List Moment → Point → Prop) : Prop where
  pass : ∀ l s hand, I l ⟨s, hand, none⟩ → I (l ++ [⟨s, none⟩]) ⟨s, hand, none⟩
  turn : ∀ l x p p', x ∈ l → I l p → Turn x.solver p p' → I l p'
  fails : ∀ l p e t, I l p → Fails p e t → I l ⟨t, [], none⟩
  asking : ∀ l s question, I l ⟨s, [], none⟩ → s.Asks question → I l ⟨s.asking question, [], none⟩
  answers : ∀ l s question raw t, I l ⟨s, [], none⟩ → s.Asks question → Answers s question raw t →
    I (l ++ [⟨s.asking question, some (question, raw)⟩]) ⟨t, [], none⟩
  rejects : ∀ l s question raw, I l ⟨s, [], none⟩ → s.Asks question → s.Rejects question raw →
    I (l ++ [⟨s.asking question, some (question, some raw)⟩]) ⟨s.asking question, [], none⟩
  addForm : ∀ l s t q, I l ⟨s, [], none⟩ → s.addForm q = .ok t → I l ⟨t, [], none⟩
  finish : ∀ l s, I l ⟨s, [], none⟩ → s.hasWork = false → I l ⟨s.finish, [], none⟩

namespace Keeps

variable {I : List Moment → Point → Prop} (hI : Keeps I) {σ : Type}
  {ask : Question → StateM σ (Option String)} {n : Nat} {w : σ}

include hI

/-- What is kept holds at a run that is being followed. -/
abbrev At (_ : Keeps I) (l : List Moment) (m : Move) : Prop :=
  m.Within (I l) (fun _ t => I l ⟨t, [], none⟩) []

theorem move (h : hI.At l (.next run)) : hI.At (l ++ [⟨run.solver, none⟩]) run.move := by
  cases h with
  | next hf hi =>
    refine Run.move_within hf (hI.pass _ _ _ hi) (fun p p' hp ht => ?_) (hI.fails _)
    exact hI.turn _ ⟨run.solver, none⟩ p p' (by simp) hp ht

theorem answer {question : Question} (raw : Option String) (h : hI.At l (.ask question run)) :
    hI.At (l ++ [⟨run.solver, some (question, raw)⟩]) (run.answer question raw) := by
  cases h with
  | @ask _ s inputs hf hq hi =>
    refine Run.answer_within raw hf hq (fun t => hI.answers _ _ _ _ _ hi hq) ?_ fun p p' hp ht => ?_
    · rintro r e rfl hr -
      exact hI.rejects _ _ _ _ hi hq hr
    · exact hI.turn _ ⟨s.asking question, some (question, raw)⟩ p p' (by simp) hp ht

/-- What is kept holds wherever a run comes to. -/
theorem stop (h : hI.At l m) : ∃ hand, I (l ++ [⟨m.solver, none⟩]) ⟨m.solver, hand, none⟩ ∧
    ((∀ run, m ≠ .next run) → hand = []) := by
  cases h with
  | @next run hf hi => exact ⟨_, hI.pass _ _ _ hi, fun h => absurd rfl (h run)⟩
  | ask hf hq hi => exact ⟨[], hI.pass _ _ _ (hI.asking _ _ _ hi hq), fun _ => rfl⟩
  | finished hi hw => exact ⟨[], hI.pass _ _ _ (hI.finish _ _ hi hw), fun _ => rfl⟩
  | failed hi => exact ⟨[], hI.pass _ _ _ hi, fun _ => rfl⟩

theorem follow (h : hI.At l m) : ∃ hand,
    I (l ++ diary ask n m w) ⟨((Solver.follow ask n m).run w).1.solver, hand, none⟩ ∧
      ((∀ u, ((Solver.follow ask n m).run w).1 ≠ .unfinished u) → hand = []) := by
  induction n generalizing l m w with
  | zero =>
    obtain ⟨hand, hi, hh⟩ := hI.stop h
    cases m with
    | next run => exact ⟨hand, hi, fun hu => absurd rfl (hu run.solver)⟩
    | ask question run => exact ⟨hand, hi, fun hu => absurd rfl (hu run.solver)⟩
    | finished s => exact ⟨hand, hi, fun _ => hh (by simp)⟩
    | failed e s => exact ⟨hand, hi, fun _ => hh (by simp)⟩
  | succ n ih =>
    cases m with
    | next run =>
      have := ih (w := w) (hI.move h)
      rw [List.append_assoc] at this
      exact this
    | ask question run =>
      have := ih (w := ((ask question).run w).2) (hI.answer ((ask question).run w).1 h)
      rw [List.append_assoc] at this
      exact this
    | finished s =>
      obtain ⟨hand, hi, hh⟩ := hI.stop h
      exact ⟨hand, hi, fun _ => hh (by simp)⟩
    | failed e s =>
      obtain ⟨hand, hi, hh⟩ := hI.stop h
      exact ⟨hand, hi, fun _ => hh (by simp)⟩

variable (ask n w) in
theorem solve (h : I l ⟨s, [], none⟩) : ∃ hand,
    I (l ++ diary ask n (.next ⟨s, .round⟩) w) ⟨((s.solve ask n).run w).1.solver, hand, none⟩ ∧
      ((∀ u, ((s.solve ask n).run w).1 ≠ .unfinished u) → hand = []) :=
  hI.follow (.next (Run.fits_of_stage (by simp)) h)

/-- What is kept and holds at the start holds after any calls. -/
theorem chronicle {start : Solver} {calls : List (Call × Reply)} (h : Chronicle start calls l s)
    (hstart : I [] ⟨start, [], none⟩) : I l ⟨s, [], none⟩ := by
  induction h with
  | start => exact hstart
  | added h ha ih => exact hI.addForm _ _ _ _ ih ha
  | refused h ha ih => exact ih
  | @returned calls l s t σ ask moves w w' h hr ih =>
    obtain ⟨hand, hi, hh⟩ := hI.solve ask moves w ih
    rw [hr] at hi hh
    exact hh (by simp) ▸ hi
  | @failed calls l s t e σ ask moves w w' h hr ih =>
    obtain ⟨hand, hi, hh⟩ := hI.solve ask moves w ih
    rw [hr] at hi hh
    exact hh (by simp) ▸ hi

end Keeps

section accounts

variable {q f : String} {e : TaxError} {lost : List String}

/-- A point, with fields that are held by nobody any more. -/
def Point.beside (p : Point) (lost : List String) : Point := ⟨p.solver, p.hand ++ lost, p.current⟩

/-- Fields that are held by nobody take no part in a change. -/
theorem Step.beside (h : Step p p') (lost : List String) :
    Step (p.beside lost) (p'.beside lost) := by
  cases h with
  | pop hn => exact .pop hn
  | resume => exact .resume
  | known hv => exact .known hv
  | commit hv hy => exact .commit hv hy
  | wait hv hy hd hp => exact .wait hv hy hd hp
  | lack hv hy => exact .lack hv hy
  | leave hv hy => exact .leave hv hy
  | release =>
    simp only [Point.beside, List.append_assoc]
    exact .release
  | supply =>
    simp only [Point.beside, List.append_assoc]
    exact .supply
  | refuse hc hr ha hw hs => exact .refuse hc hr ha hw hs
  | accept hc hr ha hw hs hp hg => exact .accept hc hr ha hw hs hp hg

theorem Fails.beside (h : Fails p e t) (lost : List String) : Fails (p.beside lost) e t := by
  cases h with
  | unknown hv hf => exact .unknown hv hf
  | fatal hv hy => exact .fatal hv hy
  | missed hv hy hd => exact .missed hv hy hd
  | cyclic hv hy hd hp => exact .cyclic hv hy hd hp
  | unspecified hc hw hs => exact .unspecified hc hw hs
  | unreadable hc hw hs hp => exact .unreadable hc hw hs hp
  | ungiven hc hw hg => exact .ungiven hc hw hg

/-- The places of the fields are even but for fields that failed calls have let go of. -/
def Accounted (p : Point) : Prop := ∃ lost, Balanced (p.beside lost)

theorem Accounted.step (h : Accounted p) (hs : Step p p') : Accounted p' := by
  obtain ⟨lost, hb⟩ := h
  exact ⟨lost, balanced_step hb (hs.beside lost)⟩

theorem Accounted.fails (h : Accounted p) (hf : Fails p e t) : Accounted ⟨t, [], none⟩ := by
  obtain ⟨lost, hb⟩ := h
  exact ⟨(p.beside lost).held, balanced_fails hb (hf.beside lost)⟩

theorem Accounted.addForm (h : Accounted ⟨s, [], none⟩) (ha : s.addForm q = .ok t) :
    Accounted ⟨t, [], none⟩ := by
  obtain ⟨lost, hb⟩ := h
  exact ⟨lost, balanced_addForm hb ha⟩

/-- The places say nothing of questions and reports. -/
theorem Accounted.congr {hand : List String} {current : Option String}
    (h : Accounted ⟨s, hand, current⟩) (hp : t.places = s.places)
    (ha : t.attempted = s.attempted) (hw : t.waitingOn = s.waitingOn)
    (hf : t.fieldWaits = s.fieldWaits) : Accounted ⟨t, hand, current⟩ := by
  obtain ⟨lost, hb⟩ := h
  refine ⟨lost, fun f => ?_, fun f d hfd => ?_⟩
  · simp only [Point.beside, hp, ha]
    exact hb.places f
  · simp only [Point.beside, hw, hf]
    exact hb.waits f d hfd

theorem accounted_initial {library : Library} {inputs : InputStore} {canAsk : Bool} :
    Accounted ⟨initial library inputs canAsk, [], none⟩ := ⟨[], balanced_initial⟩

theorem Accounted.places_le (h : Accounted p) (f : String) :
    p.solver.places f + p.held.count f ≤ 1 := by
  obtain ⟨lost, hb⟩ := h
  have := hb.places_le f
  simp only [Point.beside, Point.held, List.count_append] at this ⊢
  omega

theorem Accounted.attempted_current {hand : List String}
    (h : Accounted ⟨s, hand, some f⟩) : f ∈ s.attempted := by
  obtain ⟨lost, hb⟩ := h
  exact hb.attempted_current

end accounts

end TaxReturn.Solver
