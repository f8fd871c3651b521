import TaxReturn.Line
import TaxReturn.Proofs.Solver.Registry

/-! Every field that was ever to be solved stands in one place: on the work list, among the values,
in one list of waiters, among the fields left out, or in the hands of the solve. -/
namespace TaxReturn.Solver

variable {s t : Solver} {p p' : Point} {f d name q : String} {hand lost : List String}
  {current : Option String} {new : String → Prop} {library : Library} {inputs : InputStore}
  {canAsk : Bool} {calls : List (Call × Reply)}

/-- How often a field stands in the places that a solver has for fields. -/
def places (s : Solver) (f : String) : Nat :=
  (s.unattempted.contains f).toNat + (s.values.has f).toNat + s.fieldWaits.occurrences f +
    s.inputWaits.occurrences f + s.unimplemented.count f

/-- The places of the fields that were ever to be solved, and what they wait for. A field that is
held may still be noted as waiting for what it was released for. -/
structure Balanced (p : Point) : Prop where
  places : ∀ f, p.solver.places f + p.held.count f = (p.solver.attempted.contains f).toNat
  waits : ∀ f d, f ∉ p.hand →
    (p.solver.waitingOn[f]? = some d ↔ f ∈ p.solver.fieldWaits.waiters d)

theorem Balanced.places_le (h : Balanced p) (f : String) :
    p.solver.places f + p.held.count f ≤ 1 := by
  rw [h.places]
  exact Bool.toNat_le _

/-- A held field stands nowhere else. -/
theorem Balanced.places_held (h : Balanced p) (hf : f ∈ p.held) : p.solver.places f = 0 := by
  have h1 := h.places_le f
  have h2 := List.count_pos_iff.mpr hf
  omega

/-- A held field is one that was to be solved. -/
theorem Balanced.attempted_held (h : Balanced p) (hf : f ∈ p.held) : f ∈ p.solver.attempted := by
  have h1 := h.places f
  have h2 := List.count_pos_iff.mpr hf
  rw [← Std.ExtTreeSet.contains_iff_mem]
  cases hc : p.solver.attempted.contains f with
  | true => rfl
  | false =>
    rw [hc, Bool.toNat_false] at h1
    omega

theorem Balanced.attempted_current (h : Balanced ⟨s, hand, some name⟩) : name ∈ s.attempted :=
  h.attempted_held (by simp [Point.held])

theorem notMem_waiters_of_places (h : s.places f = 0) : f ∉ s.fieldWaits.waiters d := by
  have h0 : s.fieldWaits.occurrences f = 0 := by
    unfold places at h
    omega
  exact Waitlist.occurrences_eq_zero_iff.mp h0 d

theorem Balanced.grows (h : Balanced ⟨s, hand, current⟩) (hg : Grows s t new) :
    Balanced ⟨t, hand, current⟩ := by
  constructor
  · intro f
    have hf := h.places f
    simp only [Solver.places, Point.held, hg.values, hg.fieldWaits, hg.inputWaits,
      hg.unimplemented] at hf ⊢
    by_cases ha : f ∈ s.attempted
    · have ht : t.attempted.contains f = s.attempted.contains f := by
        rw [Bool.eq_iff_iff]
        simp [hg.attempted, ha]
      have hu : t.unattempted.contains f = s.unattempted.contains f := by
        rw [Bool.eq_iff_iff]
        simp [hg.unattempted, ha]
      rw [ht, hu]
      exact hf
    · -- A field that is new stood nowhere before.
      have hs : s.attempted.contains f = false := Name.contains_eq_false.mpr ha
      rw [hs, Bool.toNat_false] at hf
      have hu : s.unattempted.contains f = false := by
        cases hc : s.unattempted.contains f with
        | false => rfl
        | true =>
          rw [hc, Bool.toNat_true] at hf
          omega
      have ht : t.unattempted.contains f = t.attempted.contains f := by
        have hu : f ∉ s.unattempted := Name.contains_eq_false.mp hu
        rw [Bool.eq_iff_iff]
        simp [hg.attempted, hg.unattempted, ha, hu]
      rw [ht]
      omega
  · intro f d hf
    simp only [hg.waitingOn, hg.fieldWaits]
    exact h.waits f d hf

theorem balanced_step (h : Balanced p) (hs : Step p p') : Balanced p' := by
  cases hs with
  | @pop s hand name hn =>
    refine ⟨fun f => ?_, h.waits⟩
    have hf := h.places f
    simp only [Solver.places, Point.held, Option.toList, List.nil_append, List.cons_append,
      List.count_cons, Name.contains_erase, beq_iff_eq] at hf ⊢
    by_cases he : f = name
    · subst he
      simp only [Std.ExtTreeSet.contains_iff_mem.mpr hn, Bool.toNat_true] at hf
      simp only [decide_true, Bool.not_true, Bool.false_and, Bool.toNat_false, if_true]
      omega
    · simpa [he, Ne.symm he] using hf
  | @resume s hand name =>
    refine ⟨h.places, fun f d hf => ?_⟩
    simp only [Name.getElem?_erase]
    by_cases he : f = name
    · subst he
      have hp : f ∉ s.fieldWaits.waiters d :=
        notMem_waiters_of_places (h.places_held (by simp [Point.held]))
      simp [hp]
    · simp only [he, if_false]
      exact h.waits f d (by simpa [he] using hf)
  | @known s hand name hv =>
    have hp : s.places name = 0 := h.places_held (by simp [Point.held])
    simp only [Solver.places, hv, Bool.toNat_true] at hp
    omega
  | @commit s hand name value hv hy =>
    refine ⟨fun f => ?_, h.waits⟩
    have hf := h.places f
    simp only [Solver.places, Solver.log, Point.held, Option.toList, List.nil_append,
      List.cons_append, List.count_cons, ValueStore.has_commit, Waitlist.occurrences_meet,
      beq_iff_eq] at hf ⊢
    by_cases he : f = name
    · subst he
      simp only [hv, Bool.toNat_false, Bool.toNat_true, if_true, decide_true, Bool.true_or] at hf ⊢
      omega
    · simpa [he, Ne.symm he] using hf
  | @wait s t hand name dep hv hy hd hp =>
    obtain ⟨new, hg, -⟩ := hd.grows
    have hlog : Balanced ⟨s.log name, hand, some name⟩ := ⟨h.places, h.waits⟩
    have ht := hlog.grows hg
    have h0 := ht.places_held (f := name) (by simp [Point.held])
    constructor
    · intro f
      have hf := ht.places f
      simp only [Solver.places, Point.held, Option.toList, List.nil_append, List.cons_append,
        List.count_cons, Waitlist.occurrences_add, beq_iff_eq, @eq_comm _ name f] at hf ⊢
      omega
    · intro f d hf
      simp only [Name.getElem?_insert, Waitlist.mem_waiters_add]
      by_cases he : f = name
      · subst he
        have hw : f ∉ t.fieldWaits.waiters d := notMem_waiters_of_places h0
        simp [hw, eq_comm]
      · simpa [he] using ht.waits f d hf
  | @lack s hand name input hv hy =>
    refine ⟨fun f => ?_, h.waits⟩
    have hf := h.places f
    simp only [Solver.places, Solver.log, Point.held, Option.toList, List.nil_append,
      List.cons_append, List.count_cons, Waitlist.occurrences_add, beq_iff_eq,
      @eq_comm _ name f] at hf ⊢
    omega
  | @leave s hand name detail hv hy =>
    refine ⟨fun f => ?_, h.waits⟩
    have hf := h.places f
    have h0 := h.places_held (f := name) (by simp [Point.held])
    have hn : name ∉ s.unimplemented := by
      intro hn
      have := List.count_pos_iff.mpr hn
      simp only [Solver.places] at h0
      omega
    simp only [hn, if_false, Solver.places, Solver.log, Point.held, Option.toList,
      List.nil_append, List.cons_append, List.count_cons, List.count_append, List.count_nil,
      beq_iff_eq] at hf ⊢
    omega
  | @release s hand =>
    constructor
    · intro f
      have hf := h.places f
      have hr := Waitlist.occurrences_releaseAll (w := s.fieldWaits) (f := f)
      simp only [Solver.places, Point.held, Option.toList, List.nil_append,
        List.count_append] at hf ⊢
      omega
    · intro f d hf
      simp only [List.mem_append, not_or] at hf
      simp only [Waitlist.waiters_releaseAll]
      by_cases hd : d ∈ s.fieldWaits.met
      · have hw : f ∉ s.fieldWaits.waiters d := fun hw =>
          hf.1 (Waitlist.mem_releaseAll.mpr ⟨d, hd, hw⟩)
        simpa [hd, hw] using h.waits f d hf.2
      · simpa [hd] using h.waits f d hf.2
  | @supply s hand =>
    constructor
    · intro f
      have hf := h.places f
      have hr := Waitlist.occurrences_releaseAll (w := s.inputWaits) (f := f)
      simp only [Solver.places, Point.held, Option.toList, List.nil_append,
        List.count_append] at hf ⊢
      omega
    · intro f d hf
      simp only [List.mem_append, not_or] at hf
      exact h.waits f d hf.2
  | refuse => exact ⟨h.places, h.waits⟩
  | accept => exact ⟨h.places, h.waits⟩

theorem balanced_steps (h : Balanced p) (hs : Steps p p') : Balanced p' :=
  hs.preserves (fun _ _ => balanced_step) h

theorem balanced_addForm (h : Balanced ⟨s, hand, current⟩) (ha : s.addForm q = .ok t) :
    Balanced ⟨t, hand, current⟩ := by
  obtain ⟨new, hg⟩ := addForm_grows ha
  exact h.grows hg

theorem balanced_initial : Balanced ⟨initial library inputs canAsk, [], none⟩ := by
  constructor
  · intro f
    simp [initial, places, Point.held, ValueStore.has, ValueStore.empty, ValueStore.get?]
  · intro f d hf
    simp [initial]

/-- A call that fails leaves what it held in no place at all. -/
theorem balanced_fails {e : TaxError} (h : Balanced p) (hf : Fails p e t) :
    Balanced ⟨t, p.held, none⟩ := by
  have hp : ∀ t : Solver, Balanced ⟨t, p.hand, p.current⟩ → Balanced ⟨t, p.held, none⟩ :=
    fun t ht => ⟨ht.places, fun f d hf => ht.waits f d fun hm => hf (List.mem_append_right _ hm)⟩
  apply hp
  cases hf with
  | @missed s t hand name dep e hv hy hd =>
    obtain ⟨new, hg⟩ := (misses_of_discover hd).grows
    have hlog : Balanced ⟨s.log name, hand, some name⟩ := ⟨h.places, h.waits⟩
    exact hlog.grows hg
  | @cyclic s t hand name dep path hv hy hd hp =>
    obtain ⟨new, hg, -⟩ := hd.grows
    have hlog : Balanced ⟨s.log name, hand, some name⟩ := ⟨h.places, h.waits⟩
    exact hlog.grows hg
  | _ => exact ⟨h.places, h.waits⟩

/-- Throughout a session, a list of fields that failed calls have let go of makes the places
even. -/
theorem Session.balanced (h : Session (initial library inputs canAsk) calls s) :
    ∃ lost, Balanced ⟨s, lost, none⟩ ∧ (ErrorFree calls → lost = []) :=
  h.induction balanced_initial (fun _ _ _ _ _ hs ha => balanced_addForm hs ha)
    (fun _ _ hp hs => balanced_step hp hs) (fun _ _ hs _ => ⟨hs.places, hs.waits⟩)
    (.inr fun _ _ _ hp hf => balanced_fails hp hf)

theorem hasWork_eq_false (h : s.hasWork = false) :
    s.unattempted = ∅ ∧ s.fieldWaits.met = [] ∧ s.inputWaits.met = [] ∧ s.mayAsk = false := by
  simp only [hasWork, Bool.or_eq_false_iff, Waitlist.hasMet_eq_false_iff] at h
  obtain ⟨⟨⟨hu, hf⟩, hi⟩, hm⟩ := h
  exact ⟨by simpa using hu, hf, hi, hm⟩

/-- Where nothing is left to do, what is outstanding is what was never committed and can still be
found. -/
theorem solved_finish_iff (h : Balanced ⟨s, lost, none⟩) (hw : s.hasWork = false) :
    s.finish.solved = true ↔ ∀ f ∈ s.attempted, f ∈ lost ∨ s.values.has f := by
  obtain ⟨hu, hf, hi, -⟩ := hasWork_eq_false hw
  have hempty : ∀ w : Waitlist, w.met = [] →
      (w.hasUnmet = false ↔ ∀ f, w.occurrences f = 0) := by
    intro w hm
    simp only [Waitlist.hasUnmet_eq_false_iff, Waitlist.occurrences_eq_zero_iff, hm,
      List.not_mem_nil, not_false_eq_true, forall_const]
    constructor
    · intro h f n
      simp [h n]
    · intro h n
      exact List.eq_nil_iff_forall_not_mem.mpr fun f => h f n
  have hsolved : s.finish.solved = true ↔ (∀ f, s.fieldWaits.occurrences f = 0) ∧
      (∀ f, s.inputWaits.occurrences f = 0) ∧ s.unimplemented = [] := by
    rw [← hempty _ hf, ← hempty _ hi]
    simp [finish, and_assoc]
  rw [hsolved]
  constructor
  · rintro ⟨hfw, hiw, hun⟩ f ha
    have hp := h.places f
    simp only [places, Point.held, hu, hfw, hiw, hun, Std.ExtTreeSet.contains_iff_mem.mpr ha,
      Option.toList, List.nil_append, List.count_nil, Bool.toNat_true] at hp
    by_cases hl : f ∈ lost
    · exact .inl hl
    · rw [List.count_eq_zero.mpr hl] at hp
      cases hv : s.values.has f with
      | true => exact .inr rfl
      | false => simp [hv] at hp
  · intro hc
    have hone : ∀ f, s.fieldWaits.occurrences f + s.inputWaits.occurrences f +
        s.unimplemented.count f = 0 := by
      intro f
      have hp := h.places f
      simp only [places, Point.held, Option.toList, List.nil_append] at hp
      by_cases ha : f ∈ s.attempted
      · rw [Std.ExtTreeSet.contains_iff_mem.mpr ha, Bool.toNat_true] at hp
        rcases hc f ha with hl | hv
        · have := List.count_pos_iff.mpr hl
          omega
        · rw [hv, Bool.toNat_true] at hp
          omega
      · rw [Name.contains_eq_false.mpr ha, Bool.toNat_false] at hp
        omega
    refine ⟨fun f => ?_, fun f => ?_, List.eq_nil_iff_forall_not_mem.mpr fun f hm => ?_⟩
    · have := hone f
      omega
    · have := hone f
      omega
    · have h1 := hone f
      have h2 := List.count_pos_iff.mpr hm
      omega

/-- A solve that no failed call went before reports success exactly when all the fields that were
to be solved are committed. -/
theorem solved_iff_of_returned {b : Bool} (h : Balanced ⟨s, [], none⟩)
    (hr : Replies s .solve (.returned b) t) : b = true ↔ ∀ f ∈ t.attempted, t.values.has f := by
  cases hr with
  | returned hr =>
    cases from_round s [] (leads_of_solve_finished hr) with
    | finished hs hw =>
      rw [solved_finish_iff (balanced_steps h hs) hw]
      simp [finish]

/-- Where nothing is left to do, a field that was to be solved is committed, waits or is left
out. -/
theorem Balanced.settled (h : Balanced ⟨s, [], none⟩) (hw : s.hasWork = false)
    (ha : f ∈ s.attempted) : s.values.has f ∨ (∃ d, f ∈ s.fieldWaits.waiters d) ∨
      (∃ i, f ∈ s.inputWaits.waiters i) ∨ f ∈ s.unimplemented := by
  obtain ⟨hu, -, -, -⟩ := hasWork_eq_false hw
  have hp := h.places f
  rw [Std.ExtTreeSet.contains_iff_mem.mpr ha] at hp
  simp only [Solver.places, Point.held, hu, Option.toList, List.append_nil, List.count_nil,
    Bool.toNat_true] at hp
  have hex : ∀ w : Waitlist, w.occurrences f ≠ 0 → ∃ n, f ∈ w.waiters n := by
    intro w hne
    by_contra hno
    exact hne (Waitlist.occurrences_eq_zero_iff.mpr fun n hn => hno ⟨n, hn⟩)
  by_cases hv : s.values.has f
  · exact .inl hv
  by_cases hf : s.fieldWaits.occurrences f = 0
  · by_cases hi : s.inputWaits.occurrences f = 0
    · have hc : 0 < s.unimplemented.count f := by
        simp only [Bool.not_eq_true] at hv
        simp only [hv, hf, hi, Std.ExtTreeSet.contains_empty, Bool.toNat_false] at hp
        omega
      exact .inr (.inr (.inr (List.count_pos_iff.mp hc)))
    · exact .inr (.inr (.inl (hex _ hi)))
  · exact .inr (.inl (hex _ hf))

/-- What stands in some place was to be solved. -/
theorem Balanced.attempted_of_places (h : Balanced p) (hf : p.solver.places f ≠ 0) :
    f ∈ p.solver.attempted := by
  have hp := h.places f
  by_contra hno
  rw [Name.contains_eq_false.mpr hno, Bool.toNat_false] at hp
  omega

theorem Balanced.attempted_of_unattempted (h : Balanced p) (hf : f ∈ p.solver.unattempted) :
    f ∈ p.solver.attempted := by
  apply h.attempted_of_places
  simp only [Solver.places, Std.ExtTreeSet.contains_iff_mem.mpr hf, Bool.toNat_true]
  omega

theorem Balanced.attempted_of_has (h : Balanced p) (hf : p.solver.values.has f) :
    f ∈ p.solver.attempted := by
  apply h.attempted_of_places
  simp only [Solver.places, hf, Bool.toNat_true]
  omega

theorem Balanced.attempted_of_fieldWaits (h : Balanced p)
    (hf : f ∈ p.solver.fieldWaits.waiters d) : f ∈ p.solver.attempted := by
  have hne : p.solver.fieldWaits.occurrences f ≠ 0 := fun h0 =>
    Waitlist.occurrences_eq_zero_iff.mp h0 d hf
  apply h.attempted_of_places
  unfold Solver.places
  omega

theorem Balanced.attempted_of_inputWaits (h : Balanced p) {i : String}
    (hf : f ∈ p.solver.inputWaits.waiters i) : f ∈ p.solver.attempted := by
  have hne : p.solver.inputWaits.occurrences f ≠ 0 := fun h0 =>
    Waitlist.occurrences_eq_zero_iff.mp h0 i hf
  apply h.attempted_of_places
  unfold Solver.places
  omega

theorem Balanced.attempted_of_unimplemented (h : Balanced p) (hf : f ∈ p.solver.unimplemented) :
    f ∈ p.solver.attempted := by
  have hc := List.count_pos_iff.mpr hf
  apply h.attempted_of_places
  unfold Solver.places
  omega

/-- While no call has failed, a field that was ever to be solved stands in one place and no other
field stands anywhere, at every head of a round and after every call. So a solve reports success
exactly when all these fields are committed, the required ones of every form among them. -/
theorem fields_in_one_place (h : Session (initial library inputs canAsk) calls s)
    (hok : ErrorFree calls) :
    (∀ u, Leads (.next ⟨s, .round⟩) (.next ⟨u, .round⟩) →
      (∀ f, u.places f = if f ∈ u.attempted then 1 else 0) ∧
      ∀ f d, u.waitingOn[f]? = some d ↔ f ∈ u.fieldWaits.waiters d) ∧
    ∀ b t, Replies s .solve (.returned b) t →
      (b = true ↔ ∀ f ∈ t.attempted, t.values.has f) ∧
      ∀ (q : String) name form, t.forms[q]? = some form →
        library.instantiate q = .ok (name, form) →
        ∀ field ∈ form.required, name.qualify field.name ∈ t.attempted := by
  obtain ⟨lost, hb, hlost⟩ := h.balanced
  obtain rfl := hlost hok
  constructor
  · intro u hu
    cases from_round s [] hu with
    | next hf hs =>
      have hbu : Balanced ⟨u, [], none⟩ := balanced_steps hb hs
      refine ⟨fun f => ?_, fun f d => hbu.waits f d (by simp)⟩
      have hp := hbu.places f
      simp only [Point.held, Option.toList, List.append_nil, List.count_nil, Nat.add_zero] at hp
      rw [hp]
      by_cases ha : f ∈ u.attempted
      · simp [ha]
      · simp [ha, Name.contains_eq_false.mpr ha]
  · intro b t hr
    have hreg : Registered library inputs.specs t := (h.call hr).registered
    exact ⟨solved_iff_of_returned hb hr, fun q name form hq hi field hf =>
      hreg.required q name form hq hi _ (List.mem_map_of_mem hf)⟩

/-- A return of one amount, and of another one that is read from it. -/
def carriedAmount : Library where
  year := 2023
  forms := [{
    name := "a"
    required := [Line.carry "1" "a.2"]
    optional := [Line.money "2" (pure 0)] }]

/-- After a solve in which one field had to wait, both stand in one place each. -/
theorem fields_in_one_place_carried : ∃ s,
    Session (initial carriedAmount (.ofSections .empty) false)
      [(.addForm "a", .added), (.solve, .returned true)] s ∧
    ErrorFree [(.addForm "a", .added), (.solve, .returned true)] ∧
    (∀ f, s.places f = if f ∈ s.attempted then 1 else 0) ∧
    ∀ b t, Replies s .solve (.returned b) t → (b = true ↔ ∀ f ∈ t.attempted, t.values.has f) := by
  obtain ⟨s, hs, -⟩ := exists_session (initial carriedAmount (.ofSections .empty) false)
    (fun _ => none) 20 [(.addForm "a", .added), (.solve, .returned true)] (fun _ => ()) ()
    (by decide +kernel)
  have hok : ErrorFree [(.addForm "a", .added), (.solve, .returned true)] := by simp [ErrorFree]
  have h := fields_in_one_place hs hok
  exact ⟨s, hs, hok, (h.1 s .refl).1, fun b t hr => (h.2 b t hr).1⟩

end TaxReturn.Solver
