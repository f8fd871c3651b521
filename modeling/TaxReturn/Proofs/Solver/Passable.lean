import TaxReturn.Proofs.Solver.Chains
import TaxReturn.Proofs.Solver.LeastPair
import TaxReturn.Proofs.Solver.Termination
import Mathlib.Data.List.Induction

/-! Where a session can be carried through without questions: a pair of fields and values lacks
nothing, no evaluation within it is an error, and fields wait for fields of a lower rank only.
Nothing fails on the way then, and since the fields are those of the pair, the solve ends. -/
namespace TaxReturn.Solver

open Relation

variable {s t u : Solver} {p p' : Point} {f d q name : String} {library : Library}
  {inputs : InputStore} {requests : List String}

/-- Every field waits for one of a lower rank. -/
def Ranked (rank : String → ℕ) (s : Solver) : Prop :=
  ∀ f d, s.waitingOn[f]? = some d → rank d < rank f

variable {rank : String → ℕ}

theorem Ranked.lt_of_waits (h : Ranked rank s) (hw : TransGen (WaitsFor s.waitingOn) f d) :
    rank d < rank f := by
  induction hw with
  | single hw => exact h _ _ hw
  | tail _ hw ih => exact (h _ _ hw).trans ih

/-- A chain of waits goes down in rank, so it does not come to a field of a higher one. -/
theorem Ranked.waitPath_eq_none (h : Ranked rank s) (hlt : rank d < rank f) :
    waitPath s.waitingOn f s.waitingOn.size d = none := by
  have hacyclic : Acyclic s.waitingOn := fun f hf => lt_irrefl _ (h.lt_of_waits hf)
  rw [hacyclic.waitPath_eq_none_iff]
  intro hpath
  rcases reflTransGen_iff_eq_or_transGen.mp hpath with rfl | hpath
  · exact lt_irrefl _ hlt
  · exact lt_asymm hlt (h.lt_of_waits hpath)

theorem ranked_step (hlt : ∀ name d, p.solver.Yields name (.error (.unmet d)) → rank d < rank name)
    (h : Ranked rank p.solver) (hs : Step p p') : Ranked rank p'.solver := by
  cases hs with
  | @resume s hand name =>
    intro f d hf
    rw [Name.getElem?_erase] at hf
    split at hf
    · cases hf
    · exact h f d hf
  | @wait s t hand name dep hv hy hd hp =>
    obtain ⟨new, hg, -⟩ := hd.grows
    intro f d hf
    rw [Name.getElem?_insert, hg.waitingOn] at hf
    split at hf
    · rename_i he
      cases hf
      exact he ▸ hlt name dep hy
    · exact h f d hf
  | _ => exact h

theorem exists_discover {known : Name.Table InputSpec} {base : String} {field : Field}
    {name : FormName} {form : Form} (hreg : Registered library known s) (reader : String)
    (hs : Name.split d = some (q, base)) (hi : library.instantiate q = .ok (name, form))
    (hb : form.field? base = some field) : ∃ t, s.discover d reader = .ok t := by
  obtain ⟨e, he⟩ := exists_entryAs? name (Option.isSome_of_eq_some hb)
  have hd : d = name.qualify base := by
    rw [FormName.qualify, Library.text_of_instantiate hi]
    exact (Name.split_eq_some_iff.mp hs).1
  unfold discover
  by_cases ha : d ∈ s.attempted
  · exact ⟨s, by simp [ha]⟩
  by_cases hq : q ∈ s.forms
  · have hfield : d ∈ s.fields := by
      rw [Name.mem_iff_getElem?]
      refine ⟨e, (hreg.entry d e).mpr ⟨⟨q, base, hs, hq⟩, ?_⟩⟩
      rw [entry?_of_split hi hs, hd, he]
    exact ⟨s.enqueue d, by simp [ha, hs, hq, hfield]⟩
  · have hadd : s.addForm q = .ok (s.takeUp name form) := by
      rw [hreg.addForm_eq hi, if_neg hq]
    have hfield : d ∈ (s.takeUp name form).fields := mem_fields_takeUp.mpr (.inr ⟨e, hd ▸ he⟩)
    refine ⟨(s.takeUp name form).enqueue d, ?_⟩
    simp only [ha, hs, hq, hadd, hfield, Std.ExtTreeSet.contains_iff_mem,
      Std.ExtTreeMap.contains_iff_mem, if_true, if_false]

/-- Calls that ask for forms and do nothing else. -/
def adding (requests : List String) : List (Call × Reply) :=
  requests.map fun q => (.addForm q, .added)

@[simp] theorem requested_adding : requested (adding requests) = requests := by
  simp [adding, requested]

theorem errorFree_adding : ErrorFree (adding requests) := by
  simp [ErrorFree, adding]

/-- Forms that there are can be asked for. -/
theorem exists_added (inputs : InputStore)
    (h : ∀ q ∈ requests, ∃ p, library.instantiate q = .ok p) :
    ∃ t, Session (initial library inputs false) (adding requests) t := by
  induction requests using List.reverseRecOn with
  | nil => exact ⟨_, .start⟩
  | append_singleton rest q ih =>
    obtain ⟨s, hs⟩ := ih fun q hq => h q (List.mem_append_left _ hq)
    obtain ⟨⟨name, form⟩, hi⟩ := h q (by simp)
    have := hs.call (.added (hs.registered.addForm_eq hi))
    exact ⟨_, by simpa [adding] using this⟩

/-- Where a session can be carried through: its forms and fields are known to a state `u`, its
fields and values lack nothing, its fields wait for fields of a lower rank only, and no evaluation
on the way is an error. -/
structure Passable (library : Library) (inputs : InputStore) (requests : List String) (u : Solver)
    (V : ValueStore) (rank : String → ℕ) : Prop where
  registered : Registered library inputs.specs u
  given : u.inputs.given = inputs.given
  requested : ∀ q ∈ requests, q ∈ u.forms
  closed : Closed library requests u.inputs (· ∈ u.attempted) V
  rank : ∀ inputs values f d, library.Evaluates inputs values f (.error (.unmet d)) →
    rank d < rank f
  fatal : ∀ p : Solver, Registered library inputs.specs p → p.inputs.given = inputs.given →
    Below (· ∈ u.attempted) V p → ∀ f ∈ p.attempted, ∀ e,
      ¬ library.Evaluates p.inputs p.values f (.error (.fatal e))

namespace Passable

variable {V : ValueStore} (h : Passable library inputs requests u V rank)

/-- Where a session that can be carried through stands between two changes. -/
structure Underway (h : Passable library inputs requests u V rank) (p : Point) : Prop where
  unprompted : Unprompted library inputs requests p
  below : Below (· ∈ u.attempted) V p.solver
  ranked : Ranked rank p.solver
  met : p.solver.inputWaits.met = []

include h

theorem within (hp : h.Underway p) (hagree : inputs.AgreesWith library) :
    p.solver.inputs.Within u.inputs := by
  refine hp.unprompted.registered.within h.registered hagree
    (h.given.trans hp.unprompted.given.symm) fun q hq => ?_
  rcases hp.unprompted.reasoned q hq with hr | ⟨f, hf, base, hs⟩
  · exact h.requested q hr
  · exact h.registered.mem_forms (hp.below.attempted f hf) hs

theorem step (hstable : library.Stable) (hagree : inputs.AgreesWith library)
    (hp : h.Underway p) (hs : Step p p') : h.Underway p' where
  unprompted := unprompted_step hstable hagree hp.unprompted hs
  below := below_step hstable h.closed hp.unprompted (h.within hp hagree) hp.below hs
  ranked := ranked_step (fun name d hy =>
    h.rank _ _ name d (hp.unprompted.registered.evaluates hy)) hp.ranked hs
  met := by
    cases hs with
    | wait hv hy hd hw =>
      obtain ⟨new, hg, -⟩ := hd.grows
      exact (congrArg Waitlist.met hg.inputWaits).trans hp.met
    | supply => exact Waitlist.met_releaseAll
    | accept hc => exact absurd hc hp.unprompted.not_canAsk
    | _ => exact hp.met

theorem steps (hstable : library.Stable) (hagree : inputs.AgreesWith library)
    (hp : h.Underway p) (hs : Steps p p') : h.Underway p' :=
  hs.preserves (fun _ _ => h.step hstable hagree) hp

/-- A field that is needed on the way can be solved. -/
theorem demanded (hstable : library.Stable) (hagree : inputs.AgreesWith library)
    (hp : h.Underway p) (hn : name ∈ p.solver.attempted)
    (hy : p.solver.Yields name (.error (.unmet d))) : d ∈ u.attempted := by
  have he := hp.unprompted.registered.evaluates hy
  refine (h.closed.demanded name p.solver.values d (hp.below.attempted name hn) hp.below.values
    ?_).1
  exact .unmet hstable (h.within hp hagree) (ValueStore.le_refl _) he (he.absent hstable)

theorem not_fails {e : TaxError} (hstable : library.Stable) (hagree : inputs.AgreesWith library)
    (hp : h.Underway p) : ¬ Fails p e t := by
  have hreg := hp.unprompted.registered
  intro hf
  cases hf with
  | @unknown _ hand name reader hv hf =>
    have hn : name ∈ t.attempted := hp.unprompted.balanced.attempted_current
    have := hreg.field hn
    simp [hf] at this
  | @fatal s hand name e hv hy =>
    have hn : name ∈ s.attempted := hp.unprompted.balanced.attempted_current
    exact h.fatal s hreg hp.unprompted.given hp.below name hn e (hreg.evaluates hy)
  | @missed s t hand name dep e hv hy hd =>
    have hn : name ∈ s.attempted := hp.unprompted.balanced.attempted_current
    obtain ⟨⟨q, field⟩, hx⟩ := Option.isSome_iff_exists.mp
      (h.registered.field (h.demanded hstable hagree hp hn hy))
    obtain ⟨base, form, hs, hq, hb⟩ := h.registered.field?_eq_some_iff.mp hx
    obtain ⟨form', hi⟩ := h.registered.instantiated q form hq
    have hlog : Registered library inputs.specs (s.log name) :=
      hreg.same ⟨rfl, rfl, rfl, rfl, rfl, rfl⟩
    obtain ⟨t', ht⟩ := exists_discover hlog name hs hi hb
    rw [ht] at hd
    cases hd
  | @cyclic s t hand name dep path hv hy hd hw =>
    obtain ⟨new, hg, -⟩ := hd.grows
    have hlt := h.rank _ _ name dep (hreg.evaluates hy)
    have hnone := hp.ranked.waitPath_eq_none hlt
    have hwait : t.waitingOn = s.waitingOn := hg.waitingOn
    rw [hwait] at hw
    exact absurd (hw.symm.trans hnone) (by simp)
  | unspecified hc => exact absurd hc hp.unprompted.not_canAsk
  | unreadable hc => exact absurd hc hp.unprompted.not_canAsk
  | ungiven hc => exact absurd hc hp.unprompted.not_canAsk

/-- Fields wait for fields of the pair. -/
theorem waitsIn (hp : h.Underway p) : WaitsIn u.attempted.toList p.solver := fun d f hf =>
  Std.ExtTreeSet.mem_toList.mpr
    (hp.below.attempted d (hp.unprompted.traces.waiting f d hf).1)

/-- A solve that stands within the pair returns. -/
theorem exists_returned (hstable : library.Stable) (hagree : inputs.AgreesWith library)
    (hp : h.Underway ⟨s, [], none⟩) : ∃ b t, Replies s .solve (.returned b) t := by
  let ask : Question → StateM Unit (Option String) := fun _ => pure none
  have hwaits : ∀ n t, ((s.solve ask n).run ()).1 = .unfinished t →
      WaitsIn u.attempted.toList t := by
    intro n t ht
    obtain ⟨p, hs, rfl | ⟨question, rfl⟩⟩ := exists_steps_of_unfinished ht []
    · exact h.waitsIn (h.steps hstable hagree hp hs)
    · exact h.waitsIn (h.steps hstable hagree hp hs)
  obtain ⟨n, hn⟩ := exists_ending ⟨[], hp.unprompted.balanced⟩ hwaits
  cases hr : (s.solve ask n).run () with
  | mk ending _ =>
    cases ending with
    | finished t => exact ⟨_, t, .returned hr⟩
    | failed e t =>
      obtain ⟨p', hst, hf⟩ := exists_fails_of_failed hr []
      exact absurd hf (h.not_fails hstable hagree (h.steps hstable hagree hp hst))
    | unfinished t => exact absurd (congrArg Prod.fst hr) (hn t)

theorem underway_added (hstable : library.Stable) (hagree : inputs.AgreesWith library)
    (hs : Session (initial library inputs false) (adding requests) s) :
    h.Underway ⟨s, [], none⟩ := by
  obtain ⟨lost, hp, hlost⟩ := hs.induction (I := h.Underway)
    ⟨unprompted_initial, below_initial, by simp [Ranked, initial], rfl⟩
    (fun s t q lost hq hp ha => by
      rw [requested_adding] at hq
      obtain ⟨new, hg⟩ := addForm_grows ha
      refine ⟨unprompted_addForm hagree hp.unprompted ha hq,
        below_addForm h.closed hp.unprompted.registered.source hp.below ha hq, ?_, ?_⟩
      · simpa only [Ranked, hg.waitingOn] using hp.ranked
      · exact (congrArg Waitlist.met hg.inputWaits).trans hp.met)
    (fun _ _ hp hs => h.step hstable hagree hp hs)
    (fun _ _ hp _ => ⟨hp.unprompted.finish, ⟨hp.below.attempted, hp.below.values⟩, hp.ranked,
      hp.met⟩)
    (.inl errorFree_adding)
  exact hlost errorFree_adding ▸ hp

/-- A session of the requests followed by a solve can be carried through. -/
theorem exists_session (hstable : library.Stable) (hagree : inputs.AgreesWith library) :
    ∃ b t,
      Session (initial library inputs false) (adding requests ++ [(.solve, .returned b)]) t := by
  have hforms : ∀ q ∈ requests, ∃ p, library.instantiate q = .ok p := by
    intro q hq
    obtain ⟨form, hf⟩ := Name.mem_iff_getElem?.mp (h.requested q hq)
    obtain ⟨name, hi⟩ := h.registered.instantiated q form hf
    exact ⟨_, hi⟩
  obtain ⟨s, hs⟩ := exists_added inputs hforms
  obtain ⟨b, t, ht⟩ := h.exists_returned hstable hagree (h.underway_added hstable hagree hs)
  exact ⟨b, t, hs.call ht⟩

/-- However such a session is carried through, its solve returns. -/
theorem exists_eq_returned (hstable : library.Stable) (hagree : inputs.AgreesWith library)
    {reply : Reply}
    (hs : Session (initial library inputs false) (adding requests ++ [(.solve, reply)]) t) :
    ∃ b, reply = .returned b := by
  obtain ⟨v, hv, hr⟩ := hs.last
  have hp := h.underway_added hstable hagree hv
  cases hr with
  | returned hr => exact ⟨_, rfl⟩
  | failed hr =>
    obtain ⟨p', hst, hf⟩ := exists_fails_of_failed hr []
    exact absurd hf (h.not_fails hstable hagree (h.steps hstable hagree hp hst))

end Passable

end TaxReturn.Solver
