import TaxReturn.Proofs.Waitlist

/-! Releases over whole histories of a waitlist. Whoever is entered under a name is handed over once,
in turn, after the name is met, or still waits; and it makes no difference whether waiters are
released in parts or all at once. -/
namespace TaxReturn

theorem eraseDups_filter (p : String → Bool) (l : List String) :
    (l.filter p).eraseDups = l.eraseDups.filter p := by
  match l with
  | [] => rfl
  | a :: l =>
    have ih := eraseDups_filter p (l.filter fun b => !b == a)
    rw [List.eraseDups_cons]
    by_cases ha : p a
    · rw [List.filter_cons_of_pos ha, List.filter_cons_of_pos ha, List.eraseDups_cons,
        List.filter_filter, ← ih, List.filter_filter]
      simp only [Bool.and_comm]
    · rw [List.filter_cons_of_neg ha, List.filter_cons_of_neg ha, ← ih, List.filter_filter]
      congr 1
      refine List.filter_congr fun b _ => ?_
      by_cases hb : b = a <;> simp_all
termination_by l.length
decreasing_by exact Nat.lt_succ_of_le (List.length_filter_le _ _)

namespace Waitlist

variable {w w' : Waitlist} {waiting : Name.Table (List String)} {met : List String}
  {name other waiter : String} {n : ℕ}

/-- What names that were met release, each waiter with the name it waited for. -/
def dueFrom (waiting : Name.Table (List String)) (met : List String) : List (String × String) :=
  met.eraseDups.flatMap fun name => (waiting[name]?.getD []).map (name, ·)

/-- The waiters that are due: those of the names met, in the order in which the names were first
met, and for one name in the order in which they came. -/
def due (w : Waitlist) : List (String × String) := dueFrom w.waiting w.met

/-- The waiters among these that waited for one name. -/
def under (name : String) (l : List (String × String)) : List String :=
  (l.filter (·.1 = name)).map Prod.snd

/-- Nobody is kept under a name for which nobody waits. -/
def Tidy (w : Waitlist) : Prop := ∀ name : String, w.waiting[name]? ≠ some []

theorem dueFrom_cons : dueFrom waiting (name :: met) =
    (waiting[name]?.getD []).map (name, ·) ++ dueFrom (waiting.erase name) met := by
  rw [dueFrom, List.eraseDups_cons, List.flatMap_cons, eraseDups_filter, dueFrom]
  congr 1
  induction met.eraseDups with
  | nil => rfl
  | cons other rest ih =>
    rw [List.flatMap_cons, ← ih]
    by_cases h : other = name
    · simp [h]
    · simp [h, Std.ExtTreeMap.getElem?_erase, Ne.symm h]

theorem due_of_met (h : w.met = []) : w.due = [] := by
  rw [due, h]
  rfl

theorem mem_met_of_mem_due {p : String × String} (h : p ∈ w.due) : p.1 ∈ w.met := by
  obtain ⟨name, hn, hp⟩ := List.mem_flatMap.mp h
  obtain ⟨waiter, -, rfl⟩ := List.mem_map.mp hp
  exact List.mem_eraseDups.mp hn

theorem waiters_of_due (h : w.due = []) (hm : name ∈ w.met) : w.waiters name = [] := by
  have hnil := List.flatMap_eq_nil_iff.mp h name (List.mem_eraseDups.mpr hm)
  exact List.map_eq_nil_iff.mp hnil

/-- One waitlist becomes another by the release of certain waiters, those that are due first, and
by nothing else. -/
structure Releases (w : Waitlist) (l : List (String × String)) (w' : Waitlist) : Prop where
  due : w.due = l ++ w'.due
  met : w'.met <:+ w.met
  waiters : ∀ other, w.waiters other = under other l ++ w'.waiters other
  rest : w'.releaseAll.2 = w.releaseAll.2
  tidy : w.Tidy → w'.Tidy

theorem getD_erase : (waiting.erase name)[other]?.getD [] =
    if other = name then [] else waiting[other]?.getD [] := by
  simp only [Std.ExtTreeMap.getElem?_erase, Std.LawfulEqCmp.compare_eq_iff_eq]
  by_cases h : name = other
  · simp [h]
  · simp [h, Ne.symm h]

theorem getD_insert {l : List String} : (waiting.insert name l)[other]?.getD [] =
    if other = name then l else waiting[other]?.getD [] := by
  simp only [Std.ExtTreeMap.getElem?_insert, Std.LawfulEqCmp.compare_eq_iff_eq]
  by_cases h : name = other
  · simp [h]
  · simp [h, Ne.symm h]

theorem under_singleton : under other [(name, waiter)] = if other = name then [waiter] else [] := by
  by_cases h : name = other
  · simp [under, h]
  · simp [under, h, Ne.symm h]

theorem Tidy.erase (h : Tidy ⟨waiting, met⟩) (name : String) (met' : List String) :
    Tidy ⟨waiting.erase name, met'⟩ := by
  intro other
  simp only [Std.ExtTreeMap.getElem?_erase, Std.LawfulEqCmp.compare_eq_iff_eq]
  split
  · simp
  · exact h other

theorem Tidy.insert (h : Tidy ⟨waiting, met⟩) {l : List String} (hl : l ≠ []) (name : String)
    (met' : List String) : Tidy ⟨waiting.insert name l, met'⟩ := by
  intro other
  simp only [Std.ExtTreeMap.getElem?_insert, Std.LawfulEqCmp.compare_eq_iff_eq]
  split
  · simpa using hl
  · exact h other

theorem Tidy.releaseAll (h : w.Tidy) : w.releaseAll.2.Tidy := by
  obtain ⟨waiting, met⟩ := w
  rw [Waitlist.releaseAll]
  induction met generalizing waiting with
  | nil => exact h
  | cons name rest ih => exact ih _ (h.erase _ _)

/-- A name for which nobody waits is passed over. -/
theorem Releases.pass {head : String} {rest : List String} {l : List (String × String)}
    (hnone : waiting[head]?.getD [] = [])
    (h : Releases ⟨waiting.erase head, rest⟩ l w') :
    Releases ⟨waiting, head :: rest⟩ l w' where
  due := by
    rw [← h.due]
    simp [Waitlist.due, dueFrom_cons, hnone]
  met := h.met.trans (List.suffix_cons _ _)
  waiters other := by
    rw [← h.waiters]
    simp only [Waitlist.waiters, getD_erase]
    split
    · rename_i he
      rw [he, hnone]
    · rfl
  rest := h.rest
  tidy ht := h.tidy (ht.erase _ _)

/-- Where nothing is due the release comes to its end; else one waiter is handed over. -/
theorem releaseFrom_cases :
    dueFrom waiting met = [] ∧
        releaseFrom waiting met = (none, (releaseAllFrom waiting met).2) ∨
      ∃ name waiter w', releaseFrom waiting met = (some waiter, w') ∧
        Releases ⟨waiting, met⟩ [(name, waiter)] w' := by
  induction met generalizing waiting with
  | nil => exact .inl ⟨rfl, rfl⟩
  | cons head rest ih =>
    rw [releaseFrom, releaseAllFrom]
    split
    · rename_i hnone
      have hno : waiting[head]?.getD [] = [] := by simp [hnone]
      have hsame := Name.erase_eq_self hnone
      rw [dueFrom_cons, hno, hsame]
      refine ih.imp_right ?_
      rintro ⟨name, waiter, w', hr, hh⟩
      exact ⟨name, waiter, w', hr, .pass hno (hsame.symm ▸ hh)⟩
    · rename_i hempty
      have hno : waiting[head]?.getD [] = [] := by simp [hempty]
      rw [dueFrom_cons, hno]
      refine ih.imp_right ?_
      rintro ⟨name, waiter, w', hr, hh⟩
      exact ⟨name, waiter, w', hr, .pass hno hh⟩
    · rename_i only hone
      refine .inr ⟨head, only, _, rfl, ?_, List.suffix_cons _ _, fun other => ?_, rfl,
        fun h => h.erase _ _⟩
      · simp [due, dueFrom_cons, hone]
      · simp only [waiters, getD_erase, under_singleton]
        split
        · rename_i he
          simp [he, hone]
        · rfl
    · rename_i first others hne hmore
      refine .inr ⟨head, first, _, rfl, ?_, List.suffix_refl _, fun other => ?_, ?_,
        fun h => h.insert ?_ _ _⟩
      · simp [due, dueFrom_cons, hmore, Name.erase_insert]
      · simp only [waiters, getD_insert, under_singleton]
        split
        · rename_i he
          simp [he, hmore]
        · rfl
      · simp [releaseAll, releaseAllFrom, Name.erase_insert]
      · rintro rfl
        exact hne rfl

theorem under_append (l l' : List (String × String)) :
    under name (l ++ l') = under name l ++ under name l' := by
  simp [under]

theorem releaseAll_fst : w.releaseAll.1 = w.due.map Prod.snd := by
  rw [releaseAll, due]
  generalize w.waiting = waiting
  induction w.met generalizing waiting with
  | nil => rfl
  | cons name rest ih => simp [releaseAllFrom, dueFrom_cons, ih, Function.comp_def]

theorem release_cases (w : Waitlist) : w.due = [] ∧ w.release = (none, w.releaseAll.2) ∨
    ∃ name waiter w', w.release = (some waiter, w') ∧ w.Releases [(name, waiter)] w' :=
  releaseFrom_cases

/-- Released one by one until nobody comes, waiters come as they do all at once. -/
theorem releaseUpTo_eq_releaseAll (h : w.due.length < n) : w.releaseUpTo n = w.releaseAll := by
  induction n generalizing w with
  | zero => exact absurd h (Nat.not_lt_zero _)
  | succ n ih =>
    rw [releaseUpTo]
    obtain ⟨hdue, hr⟩ | ⟨name, waiter, w', hr, hrel⟩ := w.release_cases
    · simp only [hr]
      exact Prod.ext (by simp [releaseAll_fst, hdue]) rfl
    · have hlt : w'.due.length < n := by
        rw [hrel.due, List.length_append, List.length_singleton] at h
        omega
      simp only [hr, ih hlt]
      exact Prod.ext (by simp [releaseAll_fst, hrel.due]) hrel.rest

namespace Releases

variable {l l' : List (String × String)} {u v : Waitlist}

theorem refl (w : Waitlist) : w.Releases [] w :=
  ⟨rfl, List.suffix_refl _, fun _ => rfl, rfl, id⟩

theorem trans (h : w.Releases l u) (h' : u.Releases l' v) : w.Releases (l ++ l') v where
  due := by rw [h.due, h'.due, List.append_assoc]
  met := h'.met.trans h.met
  waiters other := by rw [h.waiters, h'.waiters, under_append, List.append_assoc]
  rest := h'.rest.trans h.rest
  tidy := h'.tidy ∘ h.tidy

theorem to_end (h : w.due = []) : w.Releases [] w.releaseAll.2 where
  due := by simp [h, due_of_met]
  met := by simp
  waiters other := by
    rw [waiters_releaseAll]
    split
    · rename_i hm
      exact waiters_of_due h hm
    · rfl
  rest := by rw [releaseAll_of_met met_releaseAll]
  tidy := Tidy.releaseAll

end Releases

/-- A release of at most `n` waiters takes those that are due first. -/
theorem releaseUpTo_spec (w : Waitlist) (n : ℕ) :
    (w.releaseUpTo n).1 = (w.due.take n).map Prod.snd ∧
      w.Releases (w.due.take n) (w.releaseUpTo n).2 := by
  induction n generalizing w with
  | zero => exact ⟨rfl, .refl w⟩
  | succ n ih =>
    rw [releaseUpTo]
    obtain ⟨hdue, hr⟩ | ⟨name, waiter, w', hr, hrel⟩ := w.release_cases
    · simp only [hr, hdue, List.take_nil]
      exact ⟨rfl, .to_end hdue⟩
    · obtain ⟨hout, hrest⟩ := ih w'
      simp only [hr, hout, hrel.due, List.singleton_append, List.take_succ_cons]
      exact ⟨rfl, hrel.trans hrest⟩

/-- A full release takes whoever is due. -/
theorem releases_releaseAll (w : Waitlist) : w.Releases w.due w.releaseAll.2 := by
  have h := (w.releaseUpTo_spec (w.due.length + 1)).2
  rwa [releaseUpTo_eq_releaseAll (Nat.lt_succ_self _),
    List.take_of_length_le (Nat.le_succ _)] at h

/-- What can happen to a waitlist. -/
inductive Event where
  | add (name waiter : String)
  | meet (name : String)
  | releaseUpTo (n : Nat)
  | releaseAll
  deriving DecidableEq, Repr

namespace Event

/-- What an event hands over, and the waitlist after it. -/
def run (w : Waitlist) : Event → List String × Waitlist
  | add name waiter => ([], w.add name waiter)
  | meet name => ([], w.meet name)
  | releaseUpTo n => w.releaseUpTo n
  | releaseAll => w.releaseAll

/-- What an event hands over, each waiter with the name it waited for. -/
def released (w : Waitlist) : Event → List (String × String)
  | add .. | meet _ => []
  | releaseUpTo n => w.due.take n
  | releaseAll => w.due

/-- Who is entered under a name by an event. -/
def entered (name : String) : Event → List String
  | add other waiter => if other = name then [waiter] else []
  | _ => []

/-- The name that is met by an event. -/
def met? : Event → Option String
  | meet name => some name
  | _ => none

end Event

/-- The waitlist after a history. -/
def after (w : Waitlist) (history : List Event) : Waitlist :=
  history.foldl (fun w e => (e.run w).2) w

/-- What is handed over in a history. -/
def handed (w : Waitlist) : List Event → List String
  | [] => []
  | e :: history => (e.run w).1 ++ handed (e.run w).2 history

/-- What is handed over in a history, each waiter with the name it waited for. -/
def log (w : Waitlist) : List Event → List (String × String)
  | [] => []
  | e :: history => e.released w ++ log (e.run w).2 history

/-! ### One event -/

namespace Event

variable {e : Event}

theorem run_fst (w : Waitlist) (e : Event) : (e.run w).1 = (e.released w).map Prod.snd := by
  cases e with
  | add | meet => rfl
  | releaseUpTo n => exact (w.releaseUpTo_spec n).1
  | releaseAll => exact releaseAll_fst

/-- Who waits or comes to wait is handed over or waits from now on, in turn. -/
theorem waiters_run (w : Waitlist) (e : Event) (name : String) :
    w.waiters name ++ e.entered name = under name (e.released w) ++ (e.run w).2.waiters name := by
  cases e with
  | add other waiter =>
    by_cases h : other = name
    · subst h
      simp [entered, released, run, under, waiters_add]
    · simp [entered, released, run, under, waiters_add, h, Ne.symm h]
  | meet other => simp [entered, released, run, under, waiters, Waitlist.meet]
  | releaseUpTo n => exact (List.append_nil _).trans ((w.releaseUpTo_spec n).2.waiters name)
  | releaseAll => exact (List.append_nil _).trans (w.releases_releaseAll.waiters name)

/-- Names wait to be released in the order in which they are met. -/
theorem met_run (w : Waitlist) (e : Event) : (e.run w).2.met <:+ w.met ++ e.met?.toList := by
  cases e with
  | add => simp [met?, run, Waitlist.add]
  | meet => exact List.suffix_refl _
  | releaseUpTo n => exact (w.releaseUpTo_spec n).2.met.trans (by simp [met?])
  | releaseAll => exact w.releases_releaseAll.met.trans (by simp [met?])

theorem tidy_run (e : Event) (h : w.Tidy) : (e.run w).2.Tidy := by
  cases e with
  | add name waiter => exact Tidy.insert h (by simp) _ _
  | meet name => exact h
  | releaseUpTo n => exact (w.releaseUpTo_spec n).2.tidy h
  | releaseAll => exact w.releases_releaseAll.tidy h

end Event

/-! ### Histories -/

variable {history : List Event}

theorem handed_eq (w : Waitlist) (history : List Event) :
    handed w history = (log w history).map Prod.snd := by
  induction history generalizing w with
  | nil => rfl
  | cons e history ih => rw [handed, log, List.map_append, e.run_fst, ih]

theorem waiters_after (w : Waitlist) (history : List Event) (name : String) :
    w.waiters name ++ history.flatMap (Event.entered name) =
      under name (log w history) ++ (after w history).waiters name := by
  induction history generalizing w with
  | nil => simp [log, after, under]
  | cons e history ih =>
    calc w.waiters name ++ (e :: history).flatMap (Event.entered name)
        = (w.waiters name ++ e.entered name) ++ history.flatMap (Event.entered name) := by simp
      _ = under name (e.released w) ++
          ((e.run w).2.waiters name ++ history.flatMap (Event.entered name)) := by
        rw [e.waiters_run, List.append_assoc]
      _ = under name (log w (e :: history)) ++ (after w (e :: history)).waiters name := by
        rw [ih, log, under_append, List.append_assoc]
        rfl

theorem met_after (w : Waitlist) (history : List Event) :
    (after w history).met <:+ w.met ++ history.filterMap Event.met? := by
  induction history generalizing w with
  | nil => simp [after]
  | cons e history ih =>
    obtain ⟨front, hfront⟩ := e.met_run w
    have hstep : (e.run w).2.met ++ history.filterMap Event.met? <:+
        w.met ++ (e :: history).filterMap Event.met? := by
      refine ⟨front, ?_⟩
      rw [← List.append_assoc, hfront, List.append_assoc]
      cases hm : e.met? <;> simp [hm]
    exact (ih _).trans hstep

theorem tidy_after (history : List Event) (h : w.Tidy) : (after w history).Tidy := by
  induction history generalizing w with
  | nil => exact h
  | cons e history ih => exact ih (e.tidy_run h)

theorem tidy_empty : empty.Tidy := by
  intro name
  simp [empty]

/-- The names that are waited for and not met stand in their order. -/
theorem unmetNames_sorted (w : Waitlist) :
    w.unmetNames.Pairwise fun a b => Name.order a b = .lt := by
  rw [unmetNames, List.pairwise_map]
  exact w.waiting.ordered_keys_toList.filter _

theorem unmet_eq (w : Waitlist) : w.unmet = w.unmetNames.map fun name => (name, w.waiters name) := by
  rw [unmetNames, List.map_map]
  refine (List.map_id _).symm.trans (List.map_congr_left fun p hp => ?_)
  exact Prod.ext rfl (mem_unmet.mp hp).1.symm

/-- A full release takes the names in the order in which they were first met. -/
theorem releaseAll_eq_flatMap : w.releaseAll.1 = w.met.eraseDups.flatMap w.waiters := by
  rw [releaseAll_fst, due, dueFrom, List.map_flatMap]
  simp only [List.map_map, Function.comp_def, List.map_id']
  rfl

theorem releaseUpTo_eq_take (w : Waitlist) (n : ℕ) :
    (w.releaseUpTo n).1 = w.releaseAll.1.take n := by
  rw [(w.releaseUpTo_spec n).1, releaseAll_fst, List.map_take]

theorem releaseUpTo_append (w : Waitlist) (n : ℕ) :
    (w.releaseUpTo n).1 ++ (w.releaseUpTo n).2.releaseAll.1 = w.releaseAll.1 := by
  obtain ⟨hout, hrel⟩ := w.releaseUpTo_spec n
  rw [hout, releaseAll_fst, releaseAll_fst, ← List.map_append, ← hrel.due]

theorem mem_history_of_mem_met (h : name ∈ (after empty history).met) : .meet name ∈ history := by
  obtain ⟨e, he, hname⟩ := List.mem_filterMap.mp ((met_after empty history).subset h)
  cases e with
  | meet other =>
    cases hname
    exact he
  | _ => cases hname

/-- Over every history that begins with nobody waiting, each entry under a name was handed over
once, in turn, or still waits, and what is handed over waited for a name that was met. A full
release hands over the waiters of the names met, in the order in which these were first met, and
leaves everybody else; to release some of them before makes no difference. -/
theorem history_accounts (history : List Event) :
    let w := after empty history
    (handed empty history = (log empty history).map Prod.snd ∧
      (∀ name, history.flatMap (Event.entered name) =
        under name (log empty history) ++ w.waiters name) ∧
      w.met <:+ history.filterMap Event.met? ∧
      ∀ e : Event, ∀ p ∈ e.released w, p.1 ∈ w.met ∧ .meet p.1 ∈ history) ∧
    (w.releaseAll.1 = w.met.eraseDups.flatMap w.waiters ∧ w.releaseAll.2.met = [] ∧
      ∀ name, w.releaseAll.2.waiters name = if name ∈ w.met then [] else w.waiters name) ∧
    (∀ n, (w.releaseUpTo n).1 = w.releaseAll.1.take n ∧
      (w.releaseUpTo n).1 ++ (w.releaseUpTo n).2.releaseAll.1 = w.releaseAll.1 ∧
      (w.releaseUpTo n).2.releaseAll.2 = w.releaseAll.2 ∧
      (w.releaseAll.1.length < n → w.releaseUpTo n = w.releaseAll)) ∧
    (∀ name : String, w.waiting[name]? ≠ some []) ∧
    (w.unmetNames.Pairwise fun a b => Name.order a b = .lt) ∧
      (∀ name, name ∈ w.unmetNames ↔ w.waiters name ≠ [] ∧ name ∉ w.met) ∧
      w.unmet = w.unmetNames.map (fun name => (name, w.waiters name)) ∧
      (w.hasUnmet ↔ w.unmetNames ≠ []) := by
  intro w
  refine ⟨⟨handed_eq empty history, fun name => ?_, met_after empty history, fun e p hp => ?_⟩,
    ⟨releaseAll_eq_flatMap, met_releaseAll, fun _ => waiters_releaseAll⟩, fun n => ⟨?_, ?_, ?_, ?_⟩,
    tidy_after history tidy_empty, w.unmetNames_sorted, fun _ => mem_unmetNames, w.unmet_eq, ?_⟩
  · simpa using waiters_after empty history name
  · have hm : p.1 ∈ w.met := by
      cases e with
      | add | meet => cases hp
      | releaseUpTo n => exact mem_met_of_mem_due (List.mem_of_mem_take hp)
      | releaseAll => exact mem_met_of_mem_due hp
    exact ⟨hm, mem_history_of_mem_met hm⟩
  · exact w.releaseUpTo_eq_take n
  · exact w.releaseUpTo_append n
  · exact (w.releaseUpTo_spec n).2.rest
  · intro h
    rw [releaseAll_fst, List.length_map] at h
    exact releaseUpTo_eq_releaseAll h
  · simp [hasUnmet, unmetNames]

/-- Somebody comes between a partial release and the next one, and a name is met twice. -/
def interleaved : List Event := [.add "a" "x", .add "a" "y", .meet "a", .meet "a", .releaseUpTo 1,
  .add "a" "z", .add "b" "x"]

theorem history_accounts_interleaved :
    let w := after empty interleaved
    (handed empty interleaved = ["x"] ∧ w.met = ["a", "a"] ∧ w.releaseAll.1 = ["y", "z"]) ∧
      ["x", "y", "z"] = under "a" (log empty interleaved) ++ w.waiters "a" ∧
      w.releaseUpTo 3 = w.releaseAll := by
  intro w
  have hlast : w.releaseAll.1 = ["y", "z"] := by decide +kernel
  obtain ⟨⟨-, hentered, -⟩, -, hparts, -⟩ := history_accounts interleaved
  refine ⟨⟨by decide +kernel, by decide +kernel, hlast⟩, hentered "a", (hparts 3).2.2.2 ?_⟩
  change w.releaseAll.1.length < 3
  rw [hlast]
  decide

end Waitlist
end TaxReturn
