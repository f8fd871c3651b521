import TaxReturn.Proofs.Solver.Step
import TaxReturn.Proofs.Waitlist
import TaxReturn.Solver.Run

/-! Runs as sequences of changes, and sessions as sequences of calls. A run is followed for every
answer that a question can get, so what holds along all runs holds for everybody who can be
asked. -/
namespace TaxReturn.Solver

variable {s t u : Solver} {p p' : Point} {run : Run} {m m' : Move} {lost : List String}
  {name : String}

/-- The solver as it is at a move. -/
def Move.solver : Move → Solver
  | .next run | .ask _ run => run.solver
  | .finished s | .failed _ s => s

/-- What a move leads to. The answer to a question is left open. -/
inductive Goes : Move → Move → Prop
  | move {run : Run} : Goes (.next run) run.move
  | answer {question : Question} {run : Run} (raw : Option String) :
      Goes (.ask question run) (run.answer question raw)

abbrev Leads : Move → Move → Prop := Relation.ReflTransGen Goes

/-- The fields that a stage holds in its hands. -/
def Stage.hand : Stage → List String
  | .releasing fields | .supplying fields => fields
  | _ => []

/-- Where a run stands, with fields that are held by nobody any more. -/
def Run.point (run : Run) (lost : List String) : Point :=
  ⟨run.solver, run.stage.hand ++ lost, none⟩

/-- Inputs are asked for while there is somebody who answers, and while fields wait for them. -/
def Run.Fits (run : Run) : Prop :=
  ∀ inputs, run.stage = .asking inputs → run.solver.canAsk ∧ run.solver.refused = false ∧
    ∀ input ∈ inputs, run.solver.inputWaits.waiters input ≠ []

/-- A question that is about to be put. -/
structure Asks (s : Solver) (question : Question) : Prop where
  canAsk : s.canAsk
  refused : s.refused = false
  new : question.name ∉ s.asked
  needed : s.inputWaits.waiters question.name ≠ []
  spec : s.inputSpecs[question.name]? = some question.spec
  waiting : question.waiting = s.inputWaits.waiters question.name

/-- The solver while a question is put. -/
def asking (s : Solver) (question : Question) : Solver :=
  { s with asked := s.asked.insert question.name }

/-- What is true at a move: `I` of where the run stands, and `F` of an error that it ends with. -/
inductive Move.Within (I : Point → Prop) (F : TaxError → Solver → Prop) (lost : List String) :
    Move → Prop
  | next {run : Run} (hf : run.Fits) (hi : I (run.point lost)) : Within I F lost (.next run)
  | ask {question : Question} {s : Solver} {inputs : List String}
      (hf : Run.Fits ⟨s, .asking inputs⟩) (hq : s.Asks question) (hi : I ⟨s, lost, none⟩) :
      Within I F lost (.ask question ⟨s.asking question, .asking inputs⟩)
  | finished {s : Solver} (hi : I ⟨s, lost, none⟩) (hw : s.hasWork = false) :
      Within I F lost (.finished s.finish)
  | failed {e : TaxError} {s : Solver} (he : F e s) : Within I F lost (.failed e s)

/-- Two states differ at most in a field that is about to be evaluated and in a refusal. -/
def Alike (s t : Solver) : Prop :=
  ∃ unattempted waitingOn refused, t = { s with unattempted, waitingOn, refused }

/-- A change in the course of a move that begins at `s`. Nobody is asked. -/
structure Turn (s : Solver) (p p' : Point) : Prop where
  step : Step p p'
  asked : p'.solver.asked = p.solver.asked
  alike : Alike s p.solver

/-- What an answer changes. -/
inductive Answers (s : Solver) (question : Question) : Option String → Solver → Prop
  | refused : Answers s question none { s.asking question with refused := true }
  | accepted {raw : String} {value : Value} {new : Bool} {inputs : InputStore}
      (hp : question.spec.parse raw = .ok value)
      (hg : s.inputs.give question.name raw = .ok (new, inputs)) :
      Answers s question (some raw)
        { s.asking question with inputs, inputWaits := s.inputWaits.meet question.name }

/-- An answer cannot be read, or it cannot be given. -/
def Rejects (s : Solver) (question : Question) (raw : String) : Prop :=
  ∀ value, question.spec.parse raw = .ok value → ∀ x, s.inputs.give question.name raw ≠ .ok x

/-- A question and its answer are one change. -/
theorem Asks.step {question : Question} {raw : Option String} {hand : List String}
    (hq : s.Asks question) (ha : Answers s question raw t) :
    Step ⟨s, hand, none⟩ ⟨t, hand, none⟩ := by
  cases ha with
  | refused => exact .refuse hq.canAsk hq.refused hq.new hq.needed hq.spec
  | accepted hp hg => exact .accept hq.canAsk hq.refused hq.new hq.needed hq.spec hp hg

theorem Run.fits_of_stage (h : ∀ inputs, run.stage ≠ .asking inputs) : run.Fits :=
  fun inputs hi => absurd hi (h inputs)

/-- An evaluation asks nobody. -/
theorem asked_of_current {hand : List String} (h : Step ⟨s, hand, some name⟩ p) :
    p.solver.asked = s.asked := by
  cases h with
  | wait hv hy hd hp =>
    obtain ⟨new, hg, -⟩ := hd.grows
    exact hg.asked
  | _ => rfl

section within

variable {I J : Point → Prop} {F : TaxError → Solver → Prop}

theorem goOn_within {stage : Stage} (hstage : ∀ inputs, stage ≠ .asking inputs)
    (hi : I ⟨s, stage.hand ++ lost, some name⟩) (hu : Alike u s)
    (hturn : ∀ p p', I p → Turn u p p' → I p') (hfail : ∀ p e t, I p → Fails p e t → F e t) :
    (Changed.goOn stage (s.evaluate name)).Within I F lost := by
  have h := evaluate_spec s name (stage.hand ++ lost)
  cases he : s.evaluate name with
  | ok t =>
    rw [he] at h
    exact .next (Run.fits_of_stage hstage) (hturn _ _ hi ⟨h, asked_of_current h, hu⟩)
  | error q =>
    rw [he] at h
    exact .failed (hfail _ _ _ hi h)

theorem supply_within (hi : I ⟨s, lost, none⟩) (hturn : ∀ p p', I p → Turn u p p' → I p')
    (hu : Alike u s) : s.supply.Within I F lost :=
  .next (Run.fits_of_stage (by simp)) (hturn _ _ hi ⟨.supply, rfl, hu⟩)

theorem Run.move_within (hf : run.Fits) (hi : I (run.point lost))
    (hturn : ∀ p p', I p → Turn run.solver p p' → I p')
    (hfail : ∀ p e t, I p → Fails p e t → F e t) : run.move.Within I F lost := by
  obtain ⟨s, stage⟩ := run
  cases stage with
  | round =>
    simp only [Run.move]
    split
    · exact .next (Run.fits_of_stage (by simp)) hi
    · rename_i hw
      exact .finished hi (by simpa using hw)
  | attempting =>
    simp only [Run.move]
    split
    · rename_i name rest hl
      have hn : name ∈ s.unattempted := by
        rw [← Std.ExtTreeSet.mem_toList, hl]
        exact List.mem_cons_self
      have hpop := hturn _ _ hi ⟨.pop hn, rfl, _, _, _, rfl⟩
      exact goOn_within (by simp) hpop ⟨_, _, _, rfl⟩ hturn hfail
    · have hrel := hturn _ _ hi ⟨.release, rfl, _, _, _, rfl⟩
      exact .next (Run.fits_of_stage (by simp)) hrel
  | releasing fields =>
    cases fields with
    | cons name rest =>
      have hres := hturn _ _ hi ⟨.resume, rfl, _, _, _, rfl⟩
      exact goOn_within (by simp) hres ⟨_, _, _, rfl⟩ hturn hfail
    | nil =>
      simp only [Run.move]
      split
      · rename_i hm
        refine .next ?_ hi
        rintro inputs ⟨rfl⟩
        simp only [mayAsk, Bool.and_eq_true, Bool.not_eq_true'] at hm
        exact ⟨hm.1.1, hm.1.2, fun input hi => (Waitlist.mem_unmetNames.mp hi).1⟩
      · exact supply_within hi hturn ⟨_, _, _, rfl⟩
  | supplying fields =>
    cases fields with
    | cons name rest =>
      have hres := hturn _ _ hi ⟨.resume, rfl, _, _, _, rfl⟩
      exact goOn_within (by simp) hres ⟨_, _, _, rfl⟩ hturn hfail
    | nil => exact .next (Run.fits_of_stage (by simp)) hi
  | asking inputs =>
    cases inputs with
    | nil => exact supply_within hi hturn ⟨_, _, _, rfl⟩
    | cons input rest =>
      obtain ⟨hc, hr, hw⟩ := hf _ rfl
      have hrest : Run.Fits ⟨s, .asking rest⟩ := by
        rintro inputs ⟨rfl⟩
        exact ⟨hc, hr, fun i hi => hw i (List.mem_cons_of_mem _ hi)⟩
      have hwi := hw input List.mem_cons_self
      simp only [Run.move]
      split
      · exact .next hrest hi
      · rename_i ha
        have ha : input ∉ s.asked := by simpa using ha
        split
        · rename_i hq
          exact .failed (hfail _ _ _ hi (.unspecified hc hwi hq))
        · rename_i spec hq
          have hasks : s.Asks ⟨input, spec, s.inputWaits.waiters input⟩ :=
            ⟨hc, hr, ha, hwi, hq, rfl⟩
          exact .ask hrest hasks hi

/-- What an answer leads to is its change, after which the waiters are handed over if it was a
refusal. -/
theorem Run.answer_within {question : Question} {inputs : List String} (raw : Option String)
    (hf : Run.Fits ⟨s, .asking inputs⟩) (hq : s.Asks question)
    (hanswer : ∀ t, Answers s question raw t → J ⟨t, lost, none⟩)
    (hfail : ∀ r e, raw = some r → s.Rejects question r →
      Fails ⟨s, lost, none⟩ e (s.asking question) → F e (s.asking question))
    (hturn : ∀ p p', J p → Turn (s.asking question) p p' → J p') :
    (Run.answer ⟨s.asking question, .asking inputs⟩ question raw).Within J F lost := by
  obtain ⟨hc, hr, hws⟩ := hf _ rfl
  cases raw with
  | none => exact supply_within (hanswer _ .refused) hturn ⟨_, _, _, rfl⟩
  | some raw =>
    simp only [Run.answer]
    split
    · rename_i fault hp
      exact .failed (hfail _ _ rfl (by simp [Rejects, hp]) (.unreadable hc hq.needed hq.spec hp))
    · rename_i value hp
      split
      · rename_i e hg
        have hg : s.inputs.give question.name raw = .error e := hg
        exact .failed (hfail _ _ rfl (by simp [Rejects, hg]) (.ungiven hc hq.needed hg))
      · rename_i new inputs' hg
        refine .next ?_ (hanswer _ (.accepted hp hg))
        rintro inputs ⟨rfl⟩
        exact ⟨hc, hr, hws⟩

end within

/-- From a point a move is reached by single changes. -/
abbrev Move.From (p : Point) : List String → Move → Prop :=
  Move.Within (Steps p) fun e s => ∃ p', Steps p p' ∧ Fails p' e s

theorem from_goes (h : m.From p lost) (hg : Goes m m') : m'.From p lost := by
  have hturn : ∀ u a b, Steps p a → Turn u a b → Steps p b := fun _ _ _ hs ht => hs.tail ht.step
  have hfail : ∀ a e t, Steps p a → Fails a e t → ∃ p', Steps p p' ∧ Fails p' e t :=
    fun a _ _ hs hf => ⟨a, hs, hf⟩
  cases hg with
  | move =>
    cases h with
    | next hf hs => exact Run.move_within hf hs (hturn _) hfail
  | answer raw =>
    cases h with
    | @ask question s inputs hf hq hs =>
      exact Run.answer_within raw hf hq (fun t ht => hs.tail (hq.step ht))
        (fun _ e _ _ => hfail _ e _ hs) (hturn _)

theorem from_leads (h : m.From p lost) (hl : Leads m m') : m'.From p lost := by
  induction hl with
  | refl => exact h
  | tail _ hg ih => exact from_goes ih hg

/-- A solve reaches whatever it leads to by single changes. -/
theorem from_round (s : Solver) (lost : List String) (h : Leads (.next ⟨s, .round⟩) m) :
    m.From ⟨s, lost, none⟩ lost :=
  from_leads (.next (Run.fits_of_stage (by simp)) .refl) h

section follow

variable {σ : Type} {ask : Question → StateM σ (Option String)} {moves : Nat} {w w' : σ}

/-- Where a run comes to is what its moves lead to, whoever answers. -/
theorem leads_of_follow {ending : Ending} (h : (follow ask moves m).run w = (ending, w')) :
    match ending with
    | .finished s => Leads m (.finished s)
    | .failed e s => Leads m (.failed e s)
    | .unfinished s => ∃ run : Run, run.solver = s ∧
        (Leads m (.next run) ∨ ∃ question, Leads m (.ask question run)) := by
  induction moves generalizing m w with
  | zero =>
    cases m <;> cases h
    · exact ⟨_, rfl, .inl .refl⟩
    · exact ⟨_, rfl, .inr ⟨_, .refl⟩⟩
    · exact .refl
    · exact .refl
  | succ n ih =>
    cases m with
    | finished s =>
      cases h
      exact .refl
    | failed e s =>
      cases h
      exact .refl
    | next run =>
      have hl := ih h
      cases ending with
      | unfinished s =>
        obtain ⟨run, hs, hl⟩ := hl
        exact ⟨run, hs, hl.imp (.head .move) fun ⟨q, hl⟩ => ⟨q, .head .move hl⟩⟩
      | finished s => exact .head .move hl
      | failed e s => exact .head .move hl
    | ask question run =>
      have hl := ih (w := ((ask question).run w).2) h
      cases ending with
      | unfinished s =>
        obtain ⟨run, hs, hl⟩ := hl
        exact ⟨run, hs, hl.imp (.head (.answer _)) fun ⟨q, hl⟩ => ⟨q, .head (.answer _) hl⟩⟩
      | finished s => exact .head (.answer _) hl
      | failed e s => exact .head (.answer _) hl

theorem leads_of_solve_finished (h : (s.solve ask moves).run w = (.finished t, w')) :
    Leads (.next ⟨s, .round⟩) (.finished t) :=
  leads_of_follow h

theorem leads_of_solve_failed {e : TaxError} (h : (s.solve ask moves).run w = (.failed e t, w')) :
    Leads (.next ⟨s, .round⟩) (.failed e t) :=
  leads_of_follow h

/-- What every change and the answers of somebody keep is there when the run has finished. -/
theorem within_follow {I : Point → Prop} {F : TaxError → Solver → Prop} {m : Move}
    (hturn : ∀ u p p', I p → Turn u p p' → I p') (hfail : ∀ p e t, I p → Fails p e t → F e t)
    (hanswer : ∀ question w s t, I ⟨s, lost, none⟩ →
      Answers s question ((ask question).run w).1 t → I ⟨t, lost, none⟩)
    (hm : m.Within I F lost) (h : (follow ask moves m).run w = (.finished t, w')) :
    (Move.finished t).Within I F lost := by
  induction moves generalizing m w with
  | zero =>
    cases m <;> cases h
    exact hm
  | succ n ih =>
    cases hm with
    | finished hi hw =>
      cases h
      exact .finished hi hw
    | failed he => cases h
    | next hf hi => exact ih (Run.move_within hf hi (hturn _) hfail) h
    | @ask question s inputs hf hq hi =>
      refine ih (w := ((ask question).run w).2) ?_ h
      exact Run.answer_within _ hf hq (fun t ht => hanswer question w s t hi ht)
        (fun _ e _ _ => hfail _ e _ hi) (hturn _)

/-- Between two moves a solve stands at a point that it has reached by single changes, or it has put
a question there. -/
theorem exists_steps_of_unfinished (h : ((s.solve ask moves).run w).1 = .unfinished u)
    (lost : List String) : ∃ p, Steps ⟨s, lost, none⟩ p ∧
      (u = p.solver ∨ ∃ question, u = p.solver.asking question) := by
  have hf : (s.solve ask moves).run w = (.unfinished u, ((s.solve ask moves).run w).2) :=
    Prod.ext h rfl
  obtain ⟨run, rfl, hl | ⟨question, hl⟩⟩ := leads_of_follow hf
  · cases from_round s lost hl with
    | next _ hs => exact ⟨_, hs, .inl rfl⟩
  · cases from_round s lost hl with
    | ask _ _ hs => exact ⟨_, hs, .inr ⟨_, rfl⟩⟩

/-- A solve that fails has failed at a point that it has reached by single changes. -/
theorem exists_fails_of_failed {e : TaxError} (h : (s.solve ask moves).run w = (.failed e t, w'))
    (lost : List String) : ∃ p, Steps ⟨s, lost, none⟩ p ∧ Fails p e t := by
  cases from_round s lost (leads_of_solve_failed h) with
  | failed hf => exact hf

end follow

inductive Call where
  | addForm (qualified : String)
  | solve
  deriving DecidableEq, Repr

inductive Reply where
  | added
  | returned (solved : Bool)
  | failed (e : TaxError)
  deriving DecidableEq, Repr

/-- What a call returns and the state that it leaves, for somebody who answers the questions of a
solve and may remember what was asked. -/
inductive Replies (s : Solver) : Call → Reply → Solver → Prop
  | added {q : String} {t : Solver} (h : s.addForm q = .ok t) : Replies s (.addForm q) .added t
  | refused {q : String} {e : TaxError} (h : s.addForm q = .error e) :
      Replies s (.addForm q) (.failed e) s
  | returned {σ : Type} {ask : Question → StateM σ (Option String)} {moves : Nat} {w w' : σ}
      {t : Solver} (h : (s.solve ask moves).run w = (.finished t, w')) :
      Replies s .solve (.returned t.solved) t
  | failed {σ : Type} {ask : Question → StateM σ (Option String)} {moves : Nat} {w w' : σ}
      {e : TaxError} {t : Solver} (h : (s.solve ask moves).run w = (.failed e t, w')) :
      Replies s .solve (.failed e) t

/-- Calls one after another, with what each returned. -/
inductive Session (start : Solver) : List (Call × Reply) → Solver → Prop
  | start : Session start [] start
  | call {calls : List (Call × Reply)} {s t : Solver} {call : Call} {reply : Reply}
      (h : Session start calls s) (hr : Replies s call reply t) :
      Session start (calls ++ [(call, reply)]) t

/-- Make a call, with answers that depend on the question alone. -/
def reply? (answers : Question → Option String) (moves : Nat) (s : Solver) :
    Call → Option (Reply × Solver)
  | .addForm q =>
    match s.addForm q with
    | .ok t => some (.added, t)
    | .error e => some (.failed e, s)
  | .solve =>
    match (s.solve (m := StateM Unit) (fun question => pure (answers question)) moves).run () with
    | (.finished t, _) => some (.returned t.solved, t)
    | (.failed e t, _) => some (.failed e, t)
    | (.unfinished _, _) => none

/-- Make calls one after another. -/
def replies? (answers : Question → Option String) (moves : Nat) (s : Solver) :
    List Call → Option (List Reply × Solver)
  | [] => some ([], s)
  | call :: rest => do
    let (reply, s) ← s.reply? answers moves call
    let (replies, s) ← s.replies? answers moves rest
    return (reply :: replies, s)

section answers

variable {answers : Question → Option String} {moves : Nat}

theorem replies_of_reply? {call : Call} {reply : Reply}
    (h : s.reply? answers moves call = some (reply, t)) : Replies s call reply t := by
  cases call with
  | addForm q =>
    simp only [reply?] at h
    split at h
    · rename_i ha
      cases h
      exact .added ha
    · rename_i ha
      cases h
      exact .refused ha
  | solve =>
    simp only [reply?] at h
    split at h
    · rename_i hr
      cases h
      exact .returned hr
    · rename_i hr
      cases h
      exact .failed hr
    · cases h

/-- Calls that are made make a session. -/
theorem Session.append_replies? {start : Solver} {before : List (Call × Reply)} {calls : List Call}
    {replies : List Reply} (hs : Session start before s)
    (h : s.replies? answers moves calls = some (replies, t)) :
    Session start (before ++ calls.zip replies) t := by
  induction calls generalizing before s replies with
  | nil =>
    cases h
    simpa using hs
  | cons call rest ih =>
    simp only [replies?, Option.bind_eq_bind, Option.bind_eq_some_iff, Prod.exists] at h
    obtain ⟨reply, u, hc, replies, t, hr, he⟩ := h
    cases he
    have := ih (hs.call (replies_of_reply? hc)) hr
    simpa using this

/-- A session that can be carried out, and what is seen of the state that it ends in. -/
theorem exists_session {α : Type} (start : Solver) (answers : Question → Option String)
    (moves : Nat) (calls : List (Call × Reply)) (look : Solver → α) (seen : α)
    (h : (start.replies? answers moves (calls.map (·.1))).map (fun r => (r.1, look r.2)) =
      some (calls.map (·.2), seen)) :
    ∃ t, Session start calls t ∧ look t = seen := by
  obtain ⟨⟨replies, t⟩, hr, he⟩ := Option.map_eq_some_iff.mp h
  simp only [Prod.mk.injEq] at he
  obtain ⟨rfl, hseen⟩ := he
  have hzip : (calls.map (·.1)).zip (calls.map (·.2)) = calls := by
    simp [List.zip_map']
  exact ⟨t, by simpa [hzip] using Session.start.append_replies? hr, hseen⟩

end answers

theorem Session.last {calls : List (Call × Reply)} {call : Call} {reply : Reply}
    (h : Session s (calls ++ [(call, reply)]) t) :
    ∃ u, Session s calls u ∧ Replies u call reply t := by
  generalize he : calls ++ [(call, reply)] = all at h
  cases h with
  | start => simp at he
  | call h hr =>
    obtain ⟨rfl, hlast⟩ := List.append_inj' he rfl
    cases hlast
    exact ⟨_, h, hr⟩

/-- A solve that returns has nothing left to do. -/
theorem hasWork_of_returned {b : Bool} (h : Replies s .solve (.returned b) t) :
    t.hasWork = false ∧ t.solved = b := by
  cases h with
  | returned h =>
    cases from_round s [] (leads_of_solve_finished h) with
    | finished hs hw => exact ⟨hw, rfl⟩

/-- No call returned an error. -/
def ErrorFree (calls : List (Call × Reply)) : Prop := ∀ c ∈ calls, ∀ e, c.2 ≠ .failed e

theorem errorFree_concat {calls : List (Call × Reply)} {call : Call} {reply : Reply} :
    ErrorFree (calls ++ [(call, reply)]) ↔ ErrorFree calls ∧ ∀ e, reply ≠ .failed e := by
  simp [ErrorFree, or_imp, forall_and]

/-- The forms asked for that there are. -/
def requested (calls : List (Call × Reply)) : List String :=
  calls.filterMap fun
    | (.addForm q, .added) => some q
    | _ => none

theorem requested_concat {calls : List (Call × Reply)} {c : Call × Reply} :
    requested (calls ++ [c]) = requested calls ++ requested [c] := by
  simp [requested]

/-- A solve asks for no form. -/
theorem requested_concat_solve {calls : List (Call × Reply)} {reply : Reply} :
    requested (calls ++ [(.solve, reply)]) = requested calls := by
  simp [requested]

theorem errorFree_concat_returned {calls : List (Call × Reply)} {b : Bool} (hok : ErrorFree calls) :
    ErrorFree (calls ++ [(.solve, .returned b)]) :=
  errorFree_concat.mpr ⟨hok, by simp⟩

variable {start : Solver} {calls : List (Call × Reply)} {I : Point → Prop}

/-- A solver for which nothing has been done yet. -/
def initial (library : Library) (inputs : InputStore) (canAsk : Bool) : Solver :=
  { library, inputs, canAsk }

/-- What holds at the start holds throughout a session, as far as every form that is asked for and
every change keeps it. A call that fails lets go of what it holds. -/
theorem Session.induction (h : Session start calls s)
    (hstart : I ⟨start, [], none⟩)
    (hadd : ∀ s t q lost, q ∈ requested calls → I ⟨s, lost, none⟩ → s.addForm q = .ok t →
      I ⟨t, lost, none⟩)
    (hstep : ∀ p p', I p → Step p p' → I p')
    (hfinish : ∀ s lost, I ⟨s, lost, none⟩ → s.hasWork = false → I ⟨s.finish, lost, none⟩)
    (hfail : ErrorFree calls ∨ ∀ p e t, I p → Fails p e t → I ⟨t, p.held, none⟩) :
    ∃ lost, I ⟨s, lost, none⟩ ∧ (ErrorFree calls → lost = []) := by
  induction h with
  | start => exact ⟨[], hstart, fun _ => rfl⟩
  | @call calls s t call reply h hr ih =>
    simp only [errorFree_concat] at hfail ⊢
    simp only [requested_concat, List.mem_append] at hadd
    obtain ⟨lost, hs, hlost⟩ := ih (fun s t q lost hq => hadd s t q lost (.inl hq))
      (hfail.imp_left And.left)
    cases hr with
    | added hq =>
      exact ⟨lost, hadd _ _ _ _ (.inr (by simp [requested])) hs hq, fun hok => hlost hok.1⟩
    | refused hq => exact ⟨lost, hs, fun hok => hlost hok.1⟩
    | returned hr =>
      cases from_round s lost (leads_of_solve_finished hr) with
      | finished hst hw =>
        exact ⟨lost, hfinish _ _ (hst.preserves hstep hs) hw, fun hok => hlost hok.1⟩
    | failed hr =>
      obtain ⟨p', hst, hf⟩ := exists_fails_of_failed hr lost
      rcases hfail with hok | hfail
      · exact absurd rfl (hok.2 _)
      · exact ⟨p'.held, hfail _ _ _ (hst.preserves hstep hs) hf, fun hok => absurd rfl (hok.2 _)⟩

/-- However a solve ends, it leaves the inputs and the values of a point that has what every change
and every failure keeps. -/
theorem exists_point_of_solve {σ : Type} {lost : List String} (h : I ⟨s, lost, none⟩)
    (hstep : ∀ p p', I p → Step p p' → I p')
    (hfail : ∀ p e t, I p → Fails p e t → I ⟨t, p.held, none⟩)
    (ask : Question → StateM σ (Option String)) (moves : Nat) (w : σ) :
    ∃ p, I p ∧ ((s.solve ask moves).run w).1.solver.values = p.solver.values ∧
      ((s.solve ask moves).run w).1.solver.inputs = p.solver.inputs ∧
      ∀ e t, ((s.solve ask moves).run w).1 = .failed e t → ∃ p', I p' ∧ Fails p' e t := by
  cases he : ((s.solve ask moves).run w).1 with
  | finished t =>
    cases from_round s lost (leads_of_solve_finished (Prod.ext he rfl)) with
    | finished hs _ => exact ⟨_, hs.preserves hstep h, rfl, rfl, by simp⟩
  | failed e t =>
    obtain ⟨p, hs, hf⟩ := exists_fails_of_failed (Prod.ext he rfl) lost
    have hp := hs.preserves hstep h
    refine ⟨_, hfail _ _ _ hp hf, rfl, rfl, fun e' t' he' => ?_⟩
    cases he'
    exact ⟨p, hp, hf⟩
  | unfinished t =>
    obtain ⟨p, hs, rfl | ⟨question, rfl⟩⟩ := exists_steps_of_unfinished he lost
    · exact ⟨p, hs.preserves hstep h, rfl, rfl, by simp⟩
    · exact ⟨p, hs.preserves hstep h, rfl, rfl, by simp⟩

end TaxReturn.Solver
