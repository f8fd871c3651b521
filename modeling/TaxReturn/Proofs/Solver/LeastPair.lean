import TaxReturn.Proofs.Reads
import TaxReturn.Proofs.Solver.Unprompted

/-! A solve that nobody answers computes a least fixed point. What it attempts is what the requests
and the evaluations demand, what it commits is what the evaluations come to, and the order in which
it goes about this does not show. -/
namespace TaxReturn.Solver

variable {s t u : Solver} {p p' : Point} {f d q name : String} {library : Library}
  {inputs : InputStore} {requests : List String} {D : String → Prop} {V : ValueStore}
  {calls : List (Call × Reply)}

/-- A set of fields and a store of values that lack nothing: the required fields of the requested
forms, what an evaluation over part of the values stops at, together with the required fields of
its form, and what an evaluation over the values comes to. -/
structure Closed (library : Library) (requests : List String) (inputs : InputStore)
    (D : String → Prop) (V : ValueStore) : Prop where
  requested : ∀ q ∈ requests, ∀ name form, library.instantiate q = .ok (name, form) →
    ∀ f ∈ form.requiredAs name, D f
  demanded : ∀ f U d, D f → U ≤ V → library.Evaluates inputs U f (.error (.unmet d)) →
    D d ∧ ∀ q base name form, Name.split d = some (q, base) →
      library.instantiate q = .ok (name, form) → ∀ g ∈ form.requiredAs name, D g
  computed : ∀ f v, D f → library.Evaluates inputs V f (.ok v) → V.get? f = some v

/-- What a solver attempts and commits lies within a set of fields and a store. -/
structure Below (D : String → Prop) (V : ValueStore) (s : Solver) : Prop where
  attempted : ∀ f ∈ s.attempted, D f
  values : s.values ≤ V

/-- No change leads out of a pair that lacks nothing. -/
theorem below_step (hstable : library.Stable) (hc : Closed library requests u.inputs D V)
    (h : Unprompted library inputs requests p) (hin : p.solver.inputs.Within u.inputs)
    (hb : Below D V p.solver) (hs : Step p p') : Below D V p'.solver := by
  cases hs with
  | @commit s hand name value hv hy =>
    have hD : D name := hb.attempted name h.balanced.attempted_current
    refine ⟨hb.attempted, ValueStore.commit_le hb.values (hc.computed name value hD ?_) hv⟩
    exact .value hstable hin hb.values (h.registered.evaluates hy)
  | @wait s t hand name dep hv hy hd hp =>
    have hD : D name := hb.attempted name h.balanced.attempted_current
    have he := h.registered.evaluates hy
    have he' : library.Evaluates u.inputs s.values name (.error (.unmet dep)) :=
      .unmet hstable hin (ValueStore.le_refl _) he (he.absent hstable)
    obtain ⟨hdep, hreq⟩ := hc.demanded name s.values dep hD hb.values he'
    obtain ⟨new, hg, -⟩ := hd.grows
    have hl : (s.log name).library = library := h.registered.source
    exact ⟨hd.within hb.attempted hdep (hl ▸ hreq), fun f v hf => hb.values f v (hg.values ▸ hf)⟩
  | _ => exact ⟨hb.attempted, hb.values⟩

theorem below_initial {canAsk : Bool} :
    Below D V (initial library inputs canAsk) :=
  ⟨by simp [initial], by
    intro f v hf
    simp [initial, ValueStore.empty, ValueStore.get?] at hf⟩

theorem below_addForm (hc : Closed library requests u.inputs D V) (hl : s.library = library)
    (hb : Below D V s) (ha : s.addForm q = .ok t) (hq : q ∈ requests) : Below D V t := by
  obtain ⟨name, form, hi, ⟨-, rfl⟩ | ⟨-, rfl⟩⟩ := addForm_eq_ok ha
  · exact hb
  · have hg := takeUp_grows s name form
    refine ⟨fun f hf => ?_, fun f v hf => hb.values f v (hg.values ▸ hf)⟩
    rcases (hg.attempted f).mp hf with hf | hf
    · exact hb.attempted f hf
    · exact hc.requested q hq name form (hl ▸ hi) f hf

/-- A session stays within a pair that lacks nothing over the inputs that another state knows, as
far as the forms it takes up are known there. -/
theorem Session.stays_below (hstable : library.Stable) (hagree : inputs.AgreesWith library)
    (h : Session (initial library inputs false) calls s) (hok : ErrorFree calls)
    (hu : Registered library inputs.specs u) (hgiven : u.inputs.given = inputs.given)
    (hc : Closed library (requested calls) u.inputs D V)
    (hforms : ∀ p, Unprompted library inputs (requested calls) p → Below D V p.solver →
      (∀ q ∈ p.solver.forms, q ∈ s.forms) → ∀ q ∈ p.solver.forms, q ∈ u.forms) :
    Below D V s := by
  have hin : ∀ p, Unprompted library inputs (requested calls) p → Below D V p.solver →
      (∀ q ∈ p.solver.forms, q ∈ s.forms) → p.solver.inputs.Within u.inputs :=
    fun p hp hb hs =>
      hp.registered.within hu hagree (hgiven.trans hp.given.symm) (hforms p hp hb hs)
  obtain ⟨lost, ⟨-, hb⟩, -⟩ := h.induction
    (I := fun p => Unprompted library inputs (requested calls) p ∧
      ((∀ q ∈ p.solver.forms, q ∈ s.forms) → Below D V p.solver))
    ⟨unprompted_initial, fun _ => below_initial⟩
    (fun s' t q lost hq hs ha => ⟨unprompted_addForm hagree hs.1 ha hq, fun hf =>
      below_addForm hc hs.1.registered.source
        (hs.2 fun q hq => hf q (mem_forms_addForm ha hq)) ha hq⟩)
    (fun p p' hp hs => ⟨unprompted_step hstable hagree hp.1 hs, fun hf =>
      have hf' : ∀ q ∈ p.solver.forms, q ∈ s.forms := fun q hq => hf q (mem_forms_step hs hq)
      below_step hstable hc hp.1 (hin p hp.1 (hp.2 hf') hf') (hp.2 hf') hs⟩)
    (fun _ _ hs _ => ⟨hs.1.finish, fun hf => ⟨(hs.2 hf).attempted, (hs.2 hf).values⟩⟩) (.inl hok)
  exact hb fun q hq => hq

/-- Where the places of all fields are what their evaluations come to over everything that was
committed, nothing lacks. -/
theorem closed_of_outcomes {known : Name.Table InputSpec} (hstable : library.Stable)
    (hreg : Registered library known s) (hbal : Balanced ⟨s, [], none⟩)
    (hwaiting : ∀ f d, f ∈ s.fieldWaits.waiters d → d ∈ s.attempted)
    (houtcome : ∀ f ∈ s.attempted, ∃ outcome, Outcome s f outcome ∧
      library.Evaluates s.inputs s.values f outcome)
    (hq : ∀ q ∈ requests, q ∈ s.forms) :
    Closed library requests s.inputs (· ∈ s.attempted) s.values := by
  constructor
  case requested => exact fun q hm name form hi f hf => hreg.attempted_of_required hi (hq q hm) hf
  case demanded =>
    intro f U d hf hU he
    have hd : d ∈ s.attempted := by
      cases hv : s.values.get? d with
      | some v => exact hbal.attempted_of_has (by simp [ValueStore.has, hv])
      | none =>
        have he' := he.unmet hstable (.refl _) hU hv
        obtain ⟨outcome, ho, heo⟩ := houtcome f hf
        obtain rfl := heo.unique he'
        cases ho with
        | waiting hw => exact hwaiting f d hw
    exact ⟨hd, fun q base name form hs hi f hf =>
      hreg.attempted_of_required hi (hreg.mem_forms hd hs) hf⟩
  case computed =>
    intro f v hf he
    obtain ⟨outcome, ho, heo⟩ := houtcome f hf
    obtain rfl := heo.unique he
    cases ho with
    | committed hv => exact hv

/-- A session that nobody answers, at the end of a solve. -/
structure Final (library : Library) (inputs : InputStore) (requests : List String) (s : Solver) :
    Prop where
  unprompted : Unprompted library inputs requests ⟨s, [], none⟩
  hasWork : s.hasWork = false
  requested : ∀ q ∈ requests, q ∈ s.forms
  solved : s.solved = true ↔ ∀ f ∈ s.attempted, s.values.has f

/-- When nothing is left to do, nothing lacks. -/
theorem Final.closed (hstable : library.Stable) (h : Final library inputs requests s) :
    Closed library requests s.inputs (· ∈ s.attempted) s.values :=
  closed_of_outcomes hstable h.unprompted.registered h.unprompted.balanced
    (fun f d hw => (h.unprompted.traces.waiting f d hw).1)
    (fun _ hf => h.unprompted.exists_outcome hstable h.hasWork hf) h.requested

theorem Session.final {b : Bool} (hstable : library.Stable) (hagree : inputs.AgreesWith library)
    (h : Session (initial library inputs false) (calls ++ [(.solve, .returned b)]) s)
    (hok : ErrorFree calls) : Final library inputs (requested calls) s := by
  have hall := errorFree_concat_returned (b := b) hok
  have hreq : requested (calls ++ [(.solve, .returned b)]) = requested calls :=
    requested_concat_solve
  have hun := h.unprompted hstable hagree hall
  obtain ⟨u, hu, hr⟩ := h.last
  obtain ⟨hw, hb⟩ := hasWork_of_returned hr
  rw [hreq] at hun
  refine ⟨hun, hw, fun q hq => h.mem_forms hall (hreq ▸ hq), ?_⟩
  rw [hb]
  exact solved_iff_of_returned (hu.unprompted hstable hagree hok).balanced hr

namespace Final

theorem congr {requests' : List String} (h : Final library inputs requests s)
    (hq : ∀ q, q ∈ requests ↔ q ∈ requests') : Final library inputs requests' s where
  unprompted := ⟨h.unprompted.registered, h.unprompted.balanced, h.unprompted.traces,
    h.unprompted.canAsk, h.unprompted.given,
    fun q hm => (h.unprompted.reasoned q hm).imp_left (hq q).mp⟩
  hasWork := h.hasWork
  requested q hm := h.requested q ((hq q).mpr hm)
  solved := h.solved

theorem mem_forms_iff (h : Final library inputs requests s) : q ∈ s.forms ↔
    q ∈ requests ∨ ∃ f ∈ s.attempted, ∃ base, Name.split f = some (q, base) := by
  constructor
  · exact h.unprompted.reasoned q
  · rintro (hq | ⟨f, hf, base, hs⟩)
    · exact h.requested q hq
    · exact h.unprompted.registered.mem_forms hf hs

theorem mem_unimplemented_iff (hstable : library.Stable) (h : Final library inputs requests s) :
    f ∈ s.unimplemented ↔ f ∈ s.attempted ∧
      ∃ d, library.Evaluates s.inputs s.values f (.error (.notImplemented d)) := by
  have hun := h.unprompted
  constructor
  · exact fun hu => ⟨hun.balanced.attempted_of_unimplemented hu, (hun.recorded hstable).left f hu⟩
  · rintro ⟨ha, d, he⟩
    obtain ⟨outcome, ho, he'⟩ := hun.exists_outcome hstable h.hasWork ha
    obtain rfl := he.unique he'
    cases ho with
    | left hu => exact hu

end Final

theorem Closed.congr {requests' : List String} (h : Closed library requests inputs D V)
    (hq : ∀ q ∈ requests', q ∈ requests) : Closed library requests' inputs D V :=
  ⟨fun q hm => h.requested q (hq q hm), h.demanded, h.computed⟩

end TaxReturn.Solver
