import TaxReturn.Proofs.Solver.Moments
import Mathlib.Algebra.BigOperators.Group.Finset.Basic
import Mathlib.Algebra.Order.BigOperators.Group.Finset
import Mathlib.Data.Finset.Card

/-! How often fields are evaluated. A field is evaluated when it is taken from the work list and
when it is released, and it is released from a name once: what releases it was committed or given
when the name was met, and no name is met again. -/
namespace TaxReturn

namespace Waitlist

variable {w : Waitlist} {name f : String}

/-- The names that a waiter waits for. -/
def namesFor (w : Waitlist) (waiter : String) : List String :=
  (w.waiting.toList.filter fun p => waiter ∈ p.2).map (·.1)

theorem mem_namesFor : name ∈ w.namesFor f ↔ f ∈ w.waiters name := by
  simp only [namesFor, List.mem_map, List.mem_filter, decide_eq_true_eq, Prod.exists,
    exists_and_right, exists_eq_right, Std.ExtTreeMap.mem_toList_iff_getElem?_eq_some, waiters]
  constructor
  · rintro ⟨l, hl, hf⟩
    simpa [hl] using hf
  · intro hf
    cases hl : w.waiting[name]? with
    | none => simp [hl] at hf
    | some l => exact ⟨l, rfl, by simpa [hl] using hf⟩

end Waitlist

namespace Solver

variable {s t : Solver} {p p' : Point} {l : List Moment} {x : Moment} {f d q name : String}
  {D E : Finset String} {hand : List String} {current : Option String} {library : Library}
  {inputs : InputStore} {canAsk : Bool} {new : String → Prop}

/-- The fields that a field is seen to wait for in the course of a record. -/
def fieldsParkedOn (l : List Moment) (f : String) : Finset String :=
  (l.flatMap fun x => x.solver.fieldWaits.namesFor f).toFinset

/-- The inputs that a field is seen to wait for in the course of a record. -/
def inputsParkedOn (l : List Moment) (f : String) : Finset String :=
  (l.flatMap fun x => x.solver.inputWaits.namesFor f).toFinset

/-- The qualified names of the fields of all forms taken up. -/
def registeredFields (s : Solver) : Finset String :=
  (s.forms.toList.flatMap fun p => p.2.fields.map fun field => p.1 ++ "." ++ field.name).toFinset

theorem mem_fieldsParkedOn :
    d ∈ fieldsParkedOn l f ↔ ∃ x ∈ l, f ∈ x.solver.fieldWaits.waiters d := by
  simp [fieldsParkedOn, Waitlist.mem_namesFor]

theorem mem_inputsParkedOn :
    d ∈ inputsParkedOn l f ↔ ∃ x ∈ l, f ∈ x.solver.inputWaits.waiters d := by
  simp [inputsParkedOn, Waitlist.mem_namesFor]

theorem mem_registeredFields {known : Name.Table InputSpec} (h : Registered library known s)
    (hf : f ∈ s.attempted) : f ∈ s.registeredFields := by
  obtain ⟨⟨q, field⟩, hfield⟩ := Option.isSome_iff_exists.mp (h.field hf)
  obtain ⟨base, form, hs, hq, hb⟩ := h.field?_eq_some_iff.mp hfield
  have hname : field.name = base := by simpa using List.find?_some hb
  obtain ⟨rfl, -⟩ := Name.split_eq_some_iff.mp hs
  simp only [registeredFields, List.mem_toFinset, List.mem_flatMap, List.mem_map, Prod.exists,
    Std.ExtTreeMap.mem_toList_iff_getElem?_eq_some]
  exact ⟨q, form, hq, field, List.mem_of_find?_eq_some hb, by rw [hname]⟩

/-- A field is fresh until it is taken from the work list. -/
def fresh (s : Solver) (f : String) : ℕ := if f ∈ s.attempted ∧ f ∉ s.unattempted then 0 else 1

/-- What comes to the work list stays fresh. -/
theorem fresh_grows (hg : Grows s t new) : t.fresh f = s.fresh f := by
  have h : f ∈ t.attempted ∧ f ∉ t.unattempted ↔ f ∈ s.attempted ∧ f ∉ s.unattempted := by
    rw [hg.attempted, hg.unattempted]
    tauto
  simp only [fresh, h]

theorem fresh_of_mem (h : f ∈ s.unattempted) : s.fresh f = 1 := by simp [fresh, h]

theorem fresh_erase (ha : name ∈ s.attempted) :
    { s with unattempted := s.unattempted.erase name }.fresh f =
      if f = name then 0 else s.fresh f := by
  by_cases he : f = name
  · subst he
    simp [fresh, ha]
  · simp [fresh, he, Ne.symm he]

/-- The names that a field has been released from: they are met no more, and there was a moment at
which it waited for them. -/
structure Released (l : List Moment) (f : String) (D E : Finset String) (s : Solver) : Prop where
  fields : ∀ d ∈ D, d ∈ fieldsParkedOn l f ∧ s.values.has d ∧ d ∉ s.fieldWaits.met
  inputs : ∀ i ∈ E, i ∈ inputsParkedOn l f ∧ i ∈ s.asked ∧ i ∈ s.inputSpecs ∧
    i ∉ s.inputWaits.met

/-- The evaluations of a field so far, with those that are about to be made. -/
def due (p : Point) (f : String) : ℕ :=
  p.solver.evaluated.count f + p.held.count f + p.solver.fresh f

/-- What is kept of the evaluations in the course of a record. -/
structure Tallied (library : Library) (inputs : InputStore) (l : List Moment) (p : Point) :
    Prop where
  registered : Registered library inputs.specs p.solver
  accounted : Accounted p
  evaluated : ∀ f ∈ p.solver.evaluated, f ∈ p.solver.attempted
  committed : ∀ d ∈ p.solver.fieldWaits.met, p.solver.values.has d
  asked : ∀ i ∈ p.solver.inputWaits.met, i ∈ p.solver.asked ∧ i ∈ p.solver.inputSpecs
  tally : ∀ f, ∃ D E, Released l f D E p.solver ∧ due p f ≤ 1 + D.card + E.card

theorem Released.mono {l' : List Moment} (h : Released l f D E s) (hl : ∀ x ∈ l, x ∈ l')
    (hv : ∀ d, s.values.has d → t.values.has d) (ha : ∀ i ∈ s.asked, i ∈ t.asked)
    (hi : ∀ i ∈ s.inputSpecs, i ∈ t.inputSpecs)
    (hf : ∀ d, s.values.has d → d ∉ s.fieldWaits.met → d ∉ t.fieldWaits.met)
    (hw : ∀ i ∈ s.asked, i ∉ s.inputWaits.met → i ∉ t.inputWaits.met) : Released l' f D E t where
  fields d hd := by
    obtain ⟨hp, hd', hm⟩ := h.fields d hd
    obtain ⟨x, hx, hxd⟩ := mem_fieldsParkedOn.mp hp
    exact ⟨mem_fieldsParkedOn.mpr ⟨x, hl x hx, hxd⟩, hv d hd', hf d hd' hm⟩
  inputs i hin := by
    obtain ⟨hp, ha', hi', hm⟩ := h.inputs i hin
    obtain ⟨x, hx, hxi⟩ := mem_inputsParkedOn.mp hp
    exact ⟨mem_inputsParkedOn.mpr ⟨x, hl x hx, hxi⟩, ha i ha', hi i hi', hw i ha' hm⟩

theorem Released.same (h : Released l f D E s) (hv : t.values = s.values)
    (hf : t.fieldWaits.met = s.fieldWaits.met) (ha : t.asked = s.asked)
    (hi : ∀ i ∈ s.inputSpecs, i ∈ t.inputSpecs) (hw : t.inputWaits.met = s.inputWaits.met) :
    Released l f D E t :=
  h.mono (fun _ hx => hx) (fun _ => hv ▸ id) (fun _ => ha ▸ id) hi (fun _ _ => hf ▸ id)
    fun _ _ => hw ▸ id

/-- Inputs that are known stay known. -/
theorem Discovers.inputSpecs_mono (hd : Discovers s d t) {i : String} (hi : i ∈ s.inputSpecs) :
    i ∈ t.inputSpecs := by
  cases hd with
  | attempted ha => exact hi
  | known ha hf => simpa using hi
  | takenUp ha hs hq hin hf => simpa using mem_inputSpecs_takeUp.mpr (.inl hi)

theorem Misses.inputSpecs_mono (hm : Misses s t) {i : String} (hi : i ∈ s.inputSpecs) :
    i ∈ t.inputSpecs := by
  cases hm with
  | unknown => exact hi
  | takenUp hq hin => exact mem_inputSpecs_takeUp.mpr (.inl hi)

/-- To be evaluated was due. -/
theorem due_evaluated {k : ℕ} (h : due ⟨s, hand, some name⟩ f ≤ k)
    (he : t.evaluated = name :: s.evaluated) (hf : t.fresh f = s.fresh f) :
    due ⟨t, hand, none⟩ f ≤ k := by
  simp only [due, Point.held, he, hf, Option.toList, List.nil_append, List.cons_append,
    List.count_cons] at h ⊢
  omega

/-- What is let go of is not due. -/
theorem due_let_go : due ⟨s, [], none⟩ f ≤ due ⟨s, hand, none⟩ f := by
  simp [due, Point.held]

/-- One more name that a field is released from pays for one more evaluation. -/
theorem Released.insert_field (h : Released l f D E s) (hd : d ∈ s.fieldWaits.met)
    (hv : s.values.has d) (hp : d ∈ fieldsParkedOn l f) :
    Released l f (insert d D) E { s with fieldWaits := s.fieldWaits.releaseAll.2 } ∧
      (insert d D).card = D.card + 1 := by
  refine ⟨⟨fun d' hd' => ?_, h.inputs⟩, Finset.card_insert_of_notMem fun hm => ?_⟩
  · rcases Finset.mem_insert.mp hd' with rfl | hd'
    · exact ⟨hp, hv, by simp⟩
    · exact ⟨(h.fields d' hd').1, (h.fields d' hd').2.1, by simp⟩
  · exact (h.fields d hm).2.2 hd

theorem Released.insert_input {i : String} (h : Released l f D E s) (hi : i ∈ s.inputWaits.met)
    (ha : i ∈ s.asked ∧ i ∈ s.inputSpecs) (hp : i ∈ inputsParkedOn l f) :
    Released l f D (insert i E) { s with inputWaits := s.inputWaits.releaseAll.2 } ∧
      (insert i E).card = E.card + 1 := by
  refine ⟨⟨h.fields, fun i' hi' => ?_⟩, Finset.card_insert_of_notMem fun hm => ?_⟩
  · rcases Finset.mem_insert.mp hi' with rfl | hi'
    · exact ⟨hp, ha.1, ha.2, by simp⟩
    · obtain ⟨hp', ha', hs', -⟩ := h.inputs i' hi'
      exact ⟨hp', ha', hs', by simp⟩
  · exact (h.inputs i hm).2.2.2 hi

theorem Released.release (h : Released l f D E s) :
    Released l f D E { s with fieldWaits := s.fieldWaits.releaseAll.2 } :=
  h.mono (fun _ hx => hx) (fun _ hv => hv) (fun _ ha => ha) (fun _ hi => hi)
    (fun _ _ _ => by simp) fun _ _ hm => hm

theorem Released.supply (h : Released l f D E s) :
    Released l f D E { s with inputWaits := s.inputWaits.releaseAll.2 } :=
  h.mono (fun _ hx => hx) (fun _ hv => hv) (fun _ ha => ha) (fun _ hi => hi)
    (fun _ _ hm => hm) fun _ _ _ => by simp

/-- What is released was listed once. -/
theorem count_releaseAll_le {w : Waitlist} (h : w.occurrences f ≤ 1) :
    w.releaseAll.1.count f ≤ 1 := by
  have := Waitlist.occurrences_releaseAll (w := w) (f := f)
  omega

/-- A release takes a field from one name at most, which it has not been released from before. -/
theorem tally_turn (h : Tallied library inputs l p) (hx : x ∈ l) (ht : Turn x.solver p p')
    (f : String) : ∃ D E, Released l f D E p'.solver ∧ due p' f ≤ 1 + D.card + E.card := by
  obtain ⟨D, E, hrel, hdue⟩ := h.tally f
  obtain ⟨hs, hasked, unattempted, waitingOn, refused, hshown⟩ := ht
  have hfields : p.solver.fieldWaits = x.solver.fieldWaits := by rw [hshown]
  have hinputs : p.solver.inputWaits = x.solver.inputWaits := by rw [hshown]
  cases hs with
  | @pop s hand name hn =>
    refine ⟨D, E, hrel.same rfl rfl rfl (fun _ hi => hi) rfl, ?_⟩
    have ha : name ∈ s.attempted := (h.accounted.step (.pop hn)).attempted_current
    simp only [due, Point.held, Option.toList, List.nil_append, List.cons_append,
      fresh_erase ha] at hdue ⊢
    by_cases he : f = name
    · subst he
      rw [fresh_of_mem hn] at hdue
      rw [List.count_cons_self, if_pos rfl]
      omega
    · rwa [List.count_cons_of_ne (Ne.symm he), if_neg he]
  | resume => exact ⟨D, E, hrel.same rfl rfl rfl (fun _ hi => hi) rfl, hdue⟩
  | @known s hand name hv =>
    refine ⟨D, E, hrel, le_trans ?_ hdue⟩
    simp only [due, Point.held, Option.toList, List.nil_append, List.cons_append, List.count_cons]
    omega
  | @commit s hand name value hv hy =>
    refine ⟨D, E, ?_, due_evaluated hdue rfl rfl⟩
    refine hrel.mono (fun _ hx => hx) (fun d hd => ?_) (fun _ ha => ha) (fun _ hi => hi)
      (fun d hd hm => ?_) (fun _ _ hm => hm)
    · simp [ValueStore.has_commit, hd]
    · -- The name that is met has not been committed before.
      rw [Waitlist.met_meet, List.mem_append, List.mem_singleton]
      rintro (hm' | rfl)
      · exact hm hm'
      · simp [hv] at hd
  | @wait s t hand name dep hv hy hd hp =>
    obtain ⟨new, hg, -⟩ := hd.grows
    have hfresh : t.fresh f = (s.log name).fresh f := fresh_grows hg
    have hmet : t.fieldWaits.met = s.fieldWaits.met := congrArg Waitlist.met hg.fieldWaits
    refine ⟨D, E, ?_, due_evaluated hdue hg.evaluated hfresh⟩
    exact hrel.same hg.values hmet hg.asked (fun i hi => hd.inputSpecs_mono hi)
      (congrArg Waitlist.met hg.inputWaits)
  | @lack s hand name input hv hy =>
    exact ⟨D, E, hrel.same rfl rfl rfl (fun _ hi => hi) rfl,
      due_evaluated hdue rfl rfl⟩
  | @leave s hand name detail hv hy =>
    exact ⟨D, E, hrel.same rfl rfl rfl (fun _ hi => hi) rfl,
      due_evaluated hdue rfl rfl⟩
  | @release s hand =>
    have hplaces := h.accounted.places_le f
    simp only [places] at hplaces
    have hc := count_releaseAll_le (w := s.fieldWaits) (f := f) (by omega)
    have hdue' : due ⟨{ s with fieldWaits := s.fieldWaits.releaseAll.2 },
        s.fieldWaits.releaseAll.1 ++ hand, none⟩ f =
          due ⟨s, hand, none⟩ f + s.fieldWaits.releaseAll.1.count f := by
      simp only [due, Point.held, Option.toList, List.nil_append, List.count_append, fresh]
      omega
    by_cases hf : f ∈ s.fieldWaits.releaseAll.1
    · obtain ⟨d, hd, hw⟩ := Waitlist.mem_releaseAll.mp hf
      have hp : d ∈ fieldsParkedOn l f := mem_fieldsParkedOn.mpr ⟨x, hx, hfields ▸ hw⟩
      obtain ⟨hrel', hcard⟩ := hrel.insert_field hd (h.committed d hd) hp
      exact ⟨_, E, hrel', by omega⟩
    · rw [List.count_eq_zero.mpr hf] at hdue'
      exact ⟨D, E, hrel.release, by omega⟩
  | @supply s hand =>
    have hplaces := h.accounted.places_le f
    simp only [places] at hplaces
    have hc := count_releaseAll_le (w := s.inputWaits) (f := f) (by omega)
    have hdue' : due ⟨{ s with inputWaits := s.inputWaits.releaseAll.2 },
        s.inputWaits.releaseAll.1 ++ hand, none⟩ f =
          due ⟨s, hand, none⟩ f + s.inputWaits.releaseAll.1.count f := by
      simp only [due, Point.held, Option.toList, List.nil_append, List.count_append, fresh]
      omega
    by_cases hf : f ∈ s.inputWaits.releaseAll.1
    · obtain ⟨i, hi, hw⟩ := Waitlist.mem_releaseAll.mp hf
      have hp : i ∈ inputsParkedOn l f := mem_inputsParkedOn.mpr ⟨x, hx, hinputs ▸ hw⟩
      obtain ⟨hrel', hcard⟩ := hrel.insert_input hi (h.asked i hi) hp
      exact ⟨D, _, hrel', by omega⟩
    · rw [List.count_eq_zero.mpr hf] at hdue'
      exact ⟨D, E, hrel.supply, by omega⟩
  | @refuse s hand input spec hc hr ha =>
    exact absurd (hasked ▸ Name.mem_insert.mpr (.inl rfl)) ha
  | @accept s hand input spec value raw new inputs hc hr ha =>
    exact absurd (hasked ▸ Name.mem_insert.mpr (.inl rfl)) ha

theorem Tallied.turn (h : Tallied library inputs l p) (hx : x ∈ l) (ht : Turn x.solver p p') :
    Tallied library inputs l p' := by
  have htally := tally_turn h hx ht
  have hreg := registered_step h.registered ht.step
  have hacc := h.accounted.step ht.step
  have hcurrent : ∀ {s : Solver} {name : String}, Accounted ⟨s, p.hand, some name⟩ →
      ∀ f ∈ name :: s.evaluated, (f ∈ s.evaluated → f ∈ s.attempted) → f ∈ s.attempted := by
    intro s name ha f hf hs
    rcases List.mem_cons.mp hf with rfl | hf
    · exact ha.attempted_current
    · exact hs hf
  obtain ⟨hs, hasked, -⟩ := ht
  cases hs with
  | @commit s hand name value hv hy =>
    refine ⟨hreg, hacc, fun f hf => hcurrent h.accounted f hf (h.evaluated f), fun d hd => ?_,
      h.asked, htally⟩
    rw [Waitlist.met_meet, List.mem_append, List.mem_singleton] at hd
    rw [ValueStore.has_commit]
    rcases hd with hd | rfl
    · simp [h.committed d hd]
    · simp
  | @wait s t hand name dep hv hy hd hp =>
    obtain ⟨new, hg, -⟩ := hd.grows
    have hf : t.fieldWaits = s.fieldWaits := hg.fieldWaits
    have hi : t.inputWaits = s.inputWaits := hg.inputWaits
    have hvals : t.values = s.values := hg.values
    have ha : t.asked = s.asked := hg.asked
    refine ⟨hreg, hacc, fun f hm => ?_, fun d hm => ?_, fun i hm => ?_, htally⟩
    · have hm : f ∈ name :: s.evaluated := by
        rw [show t.evaluated = name :: s.evaluated from hg.evaluated] at hm
        exact hm
      exact (hg.attempted f).mpr (.inl (hcurrent h.accounted f hm (h.evaluated f)))
    · exact hvals ▸ h.committed d (hf ▸ hm)
    · obtain ⟨h1, h2⟩ := h.asked i (hi ▸ hm)
      exact ⟨ha ▸ h1, hd.inputSpecs_mono h2⟩
  | lack | leave =>
    exact ⟨hreg, hacc, fun f hf => hcurrent h.accounted f hf (h.evaluated f), h.committed, h.asked,
      htally⟩
  | release => exact ⟨hreg, hacc, h.evaluated, by simp, h.asked, htally⟩
  | supply => exact ⟨hreg, hacc, h.evaluated, h.committed, by simp, htally⟩
  | @refuse s hand input spec hc hr ha =>
    exact absurd (hasked ▸ Name.mem_insert.mpr (.inl rfl)) ha
  | @accept s hand input spec value raw new inputs hc hr ha =>
    exact absurd (hasked ▸ Name.mem_insert.mpr (.inl rfl)) ha
  | _ => exact ⟨hreg, hacc, h.evaluated, h.committed, h.asked, htally⟩

/-- No more is to be evaluated than before, and what is met is met because it has just been asked
for. -/
theorem Tallied.carry {l' : List Moment} (h : Tallied library inputs l p)
    (hl : ∀ x ∈ l, x ∈ l') (hreg : Registered library inputs.specs t)
    (hacc : Accounted ⟨t, hand, current⟩) (he : ∀ f ∈ t.evaluated, f ∈ t.attempted)
    (hv : t.values = p.solver.values) (hf : t.fieldWaits.met = p.solver.fieldWaits.met)
    (ha : ∀ i ∈ p.solver.asked, i ∈ t.asked) (hi : ∀ i ∈ p.solver.inputSpecs, i ∈ t.inputSpecs)
    (hw : ∀ i ∈ t.inputWaits.met, i ∈ p.solver.inputWaits.met ∨
      i ∉ p.solver.asked ∧ i ∈ t.asked ∧ i ∈ t.inputSpecs)
    (hdue : ∀ f, due ⟨t, hand, current⟩ f ≤ due p f) :
    Tallied library inputs l' ⟨t, hand, current⟩ where
  registered := hreg
  accounted := hacc
  evaluated := he
  committed d hd := hv ▸ h.committed d (hf ▸ hd)
  asked i hm := by
    rcases hw i hm with hm | ⟨-, hm⟩
    · exact ⟨ha i (h.asked i hm).1, hi i (h.asked i hm).2⟩
    · exact hm
  tally f := by
    obtain ⟨D, E, hrel, hd⟩ := h.tally f
    refine ⟨D, E, hrel.mono hl (fun _ => hv ▸ id) ha hi (fun _ _ => hf ▸ id) fun i hia him hm => ?_,
      (hdue f).trans hd⟩
    rcases hw i hm with hm | ⟨hn, -⟩
    · exact him hm
    · exact hn hia

/-- What fails lets go of what it held, and there is no more to be evaluated than before. -/
theorem Tallied.fails {e : TaxError} (h : Tallied library inputs l p) (hf : Fails p e t) :
    Tallied library inputs l ⟨t, [], none⟩ := by
  have hreg := registered_fails h.registered hf
  have hacc := h.accounted.fails hf
  have hgrows : ∀ {s t : Solver} {hand : List String} {name : String} {new : String → Prop},
      Tallied library inputs l ⟨s, hand, some name⟩ → Grows (s.log name) t new →
      Registered library inputs.specs t → Accounted ⟨t, [], none⟩ →
      (∀ i ∈ s.inputSpecs, i ∈ t.inputSpecs) → Tallied library inputs l ⟨t, [], none⟩ := by
    intro s t hand name new h hg hreg hacc hi
    have he : t.evaluated = name :: s.evaluated := hg.evaluated
    have hfresh : ∀ f, t.fresh f = s.fresh f := fun f => fresh_grows (s := s.log name) hg
    refine h.carry (fun _ => id) hreg hacc (fun f hf => (hg.attempted f).mpr (.inl ?_)) hg.values
      (congrArg Waitlist.met hg.fieldWaits) (fun i hi => hg.asked ▸ hi) hi ?_ fun f => ?_
    · rw [he] at hf
      rcases List.mem_cons.mp hf with rfl | hf
      · exact h.accounted.attempted_current
      · exact h.evaluated f hf
    · exact fun i hi => .inl (congrArg Waitlist.met hg.inputWaits ▸ hi)
    · exact due_let_go.trans (due_evaluated le_rfl he (hfresh f))
  cases hf with
  | @unknown s hand name =>
    refine h.carry (fun _ => id) hreg hacc h.evaluated rfl rfl (fun _ => id) (fun _ => id)
      (fun _ => .inl) fun f => ?_
    simp only [due, Point.held, List.count_append, Option.toList, List.count_nil]
    omega
  | fatal => exact hgrows h .refl hreg hacc fun _ => id
  | missed hv hy hd =>
    have hm := misses_of_discover hd
    obtain ⟨new, hg⟩ := hm.grows
    exact hgrows h hg hreg hacc fun i hi => hm.inputSpecs_mono hi
  | cyclic hv hy hd hp =>
    obtain ⟨new, hg, -⟩ := hd.grows
    exact hgrows h hg hreg hacc fun i hi => hd.inputSpecs_mono hi
  | unspecified | unreadable | ungiven =>
    exact h.carry (fun _ => id) hreg hacc h.evaluated rfl rfl
      (fun i hi => Name.mem_insert.mpr (.inr hi)) (fun _ => id) (fun _ => .inl) fun _ => due_let_go

theorem keeps_tallied : Keeps (Tallied library inputs) where
  pass l s hand h := h.carry (fun x hx => List.mem_append_left _ hx) h.registered h.accounted
    h.evaluated rfl rfl (fun _ => id) (fun _ => id) (fun _ => .inl) fun _ => le_rfl
  turn l x p p' hx h ht := h.turn hx ht
  fails l p e t h hf := h.fails hf
  asking l s q h hq := h.carry (fun _ => id) (h.registered.same ⟨rfl, rfl, rfl, rfl, rfl, rfl⟩)
    (h.accounted.congr rfl rfl rfl rfl) h.evaluated rfl rfl
    (fun _ hi => Name.mem_insert.mpr (.inr hi)) (fun _ => id) (fun _ => .inl) fun _ => le_rfl
  answers l s q answer t h hq ha := by
    have hl : ∀ x ∈ l, x ∈ l ++ [⟨s.asking q, some (q, answer)⟩] :=
      fun x hx => List.mem_append_left _ hx
    have hasked : ∀ i ∈ s.asked, i ∈ s.asked.insert q.name :=
      fun _ hi => Name.mem_insert.mpr (.inr hi)
    have hs : Step ⟨s, [], none⟩ ⟨t, [], none⟩ := hq.step ha
    have hreg := registered_step h.registered hs
    have hacc := h.accounted.step hs
    cases ha with
    | refused =>
      exact h.carry hl hreg hacc h.evaluated rfl rfl hasked (fun _ => id) (fun _ => .inl)
        fun _ => le_rfl
    | accepted hp hg =>
      refine h.carry hl hreg hacc h.evaluated rfl rfl hasked (fun _ => id) (fun i hi => ?_)
        fun _ => le_rfl
      rw [Waitlist.met_meet, List.mem_append, List.mem_singleton] at hi
      refine hi.imp_right ?_
      rintro rfl
      refine ⟨hq.new, Name.mem_insert.mpr (.inl rfl), ?_⟩
      exact Name.mem_iff_getElem?.mpr ⟨_, hq.spec⟩
  rejects l s q raw h hq hr := h.carry (fun x hx => List.mem_append_left _ hx)
    (h.registered.same ⟨rfl, rfl, rfl, rfl, rfl, rfl⟩) (h.accounted.congr rfl rfl rfl rfl)
    h.evaluated rfl rfl (fun _ hi => Name.mem_insert.mpr (.inr hi)) (fun _ => id) (fun _ => .inl)
    fun _ => le_rfl
  addForm l s t q h ha := by
    have hreg := registered_addForm h.registered ha
    have hacc := h.accounted.addForm ha
    obtain ⟨name, form, -, ⟨-, rfl⟩ | ⟨-, rfl⟩⟩ := addForm_eq_ok ha
    · exact h
    · have hg := takeUp_grows s name form
      refine h.carry (fun _ => id) hreg hacc (fun f hf => (hg.attempted f).mpr (.inl ?_)) hg.values
        (congrArg Waitlist.met hg.fieldWaits) (fun i hi => hg.asked ▸ hi)
        (fun i hi => mem_inputSpecs_takeUp.mpr (.inl hi))
        (fun i hi => .inl (congrArg Waitlist.met hg.inputWaits ▸ hi)) fun f => ?_
      · exact h.evaluated f (hg.evaluated ▸ hf)
      · simp only [due, hg.evaluated, fresh_grows hg, Point.held, le_refl]
  finish l s h hw := h.carry (fun _ => id) (h.registered.same ⟨rfl, rfl, rfl, rfl, rfl, rfl⟩)
    (h.accounted.congr rfl rfl rfl rfl) h.evaluated rfl rfl (fun _ => id) (fun _ => id)
    (fun _ => .inl) fun _ => le_rfl

theorem tallied_initial :
    Tallied library inputs [] ⟨initial library inputs canAsk, [], none⟩ where
  registered := registered_initial
  accounted := accounted_initial
  evaluated := by simp [initial]
  committed := by simp [initial, Waitlist.empty]
  asked := by simp [initial, Waitlist.empty]
  tally f := ⟨∅, ∅, ⟨by simp, by simp⟩, by simp [due, Point.held, fresh, initial]⟩

/-- A field is evaluated once, and once more for every name that it was released from. -/
theorem Tallied.count_le (h : Tallied library inputs l p) (f : String) :
    ∃ D E, Released l f D E p.solver ∧ p.solver.evaluated.count f ≤ 1 + D.card + E.card := by
  obtain ⟨D, E, hrel, hdue⟩ := h.tally f
  refine ⟨D, E, hrel, ?_⟩
  simp only [due] at hdue
  omega

/-- Names that a field was released from are fields and inputs that are registered. -/
theorem Tallied.card_le (h : Tallied library inputs l p) (hrel : Released l f D E p.solver) :
    D.card ≤ p.solver.registeredFields.card ∧ E.card ≤ p.solver.inputSpecs.size := by
  constructor
  · refine Finset.card_le_card fun d hd => ?_
    obtain ⟨lost, hb⟩ := h.accounted
    have ha : d ∈ p.solver.attempted := hb.attempted_of_has (hrel.fields d hd).2.1
    exact mem_registeredFields h.registered ha
  · calc E.card ≤ p.solver.inputSpecs.keys.toFinset.card := by
          refine Finset.card_le_card fun i hi => ?_
          simpa using (hrel.inputs i hi).2.2.1
      _ ≤ p.solver.inputSpecs.keys.length := List.toFinset_card_le _
      _ = p.solver.inputSpecs.size := Std.ExtTreeMap.length_keys

theorem Tallied.length_le (h : Tallied library inputs l p) : p.solver.evaluated.length ≤
    p.solver.registeredFields.card *
      (1 + p.solver.registeredFields.card + p.solver.inputSpecs.size) := by
  have hcount : ∀ f, p.solver.evaluated.count f ≤
      1 + p.solver.registeredFields.card + p.solver.inputSpecs.size := by
    intro f
    obtain ⟨D, E, hrel, hc⟩ := h.count_le f
    obtain ⟨hD, hE⟩ := h.card_le hrel
    omega
  have hsub : p.solver.evaluated.toFinset ⊆ p.solver.registeredFields := fun f hf =>
    mem_registeredFields h.registered (h.evaluated f (List.mem_toFinset.mp hf))
  calc p.solver.evaluated.length
      = ∑ f ∈ p.solver.evaluated.toFinset, p.solver.evaluated.count f :=
        (List.sum_toFinset_count_eq_length _).symm
    _ ≤ p.solver.evaluated.toFinset.card *
          (1 + p.solver.registeredFields.card + p.solver.inputSpecs.size) :=
        Finset.sum_le_card_nsmul _ _ _ fun f _ => hcount f
    _ ≤ _ := Nat.mul_le_mul_right _ (Finset.card_le_card hsub)

/-- The evaluations of a session, and of a solve that is under way after it. -/
theorem Tallied.bounded (h : Tallied library inputs l p) :
    (∀ f, p.solver.evaluated.count f ≤
      1 + (fieldsParkedOn l f).card + (inputsParkedOn l f).card) ∧
    p.solver.evaluated.length ≤ p.solver.registeredFields.card *
      (1 + p.solver.registeredFields.card + p.solver.inputSpecs.size) := by
  refine ⟨fun f => ?_, h.length_le⟩
  obtain ⟨D, E, hrel, hc⟩ := h.count_le f
  have hD : D.card ≤ (fieldsParkedOn l f).card :=
    Finset.card_le_card fun d hd => (hrel.fields d hd).1
  have hE : E.card ≤ (inputsParkedOn l f).card :=
    Finset.card_le_card fun i hi => (hrel.inputs i hi).1
  omega

end Solver
end TaxReturn
