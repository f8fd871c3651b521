import TaxReturn.Proofs.Solver.Explanation
import TaxReturn.Proofs.Year2023.Demands

/-! What more inputs and more requests do to a return that nobody is asked about. What was computed
from less stays as it was; what was not computed is computed now only where it depended on an input
that was missing. -/
namespace TaxReturn

/-- One collection of sections holds what another one holds, in the same sections. -/
structure Sections.Extends (given' given : Sections) : Prop where
  entries : ∀ q key v, given.get? q key = some v → given'.get? q key = some v
  names : ∀ q, q ∈ given'.names ↔ q ∈ given.names

theorem Sections.Extends.carries {given given' : Sections} {a b : InputStore}
    {fixed : List String} (h : given'.Extends given) (ha : a.given = given)
    (hb : b.given = given') : a.Carries fixed b where
  raw n v hv := by
    obtain ⟨p, hp, hv⟩ := Option.bind_eq_some_iff.mp hv
    rw [ha] at hv
    rw [InputStore.raw?, hb, hp]
    exact h.entries _ _ _ hv
  names q hq := by
    rw [ha] at hq
    rw [hb]
    exact (h.names q).mpr hq
  instances form _ := by
    apply Name.sort_eq_of_perm
    rw [ha, hb]
    refine List.Perm.filterMap _ ?_
    exact (List.perm_ext_iff_of_nodup Sections.nodup_names Sections.nodup_names).mpr h.names

namespace Year2023

open Solver Relation

variable {s t : Solver} {f d i q : String} {given given' : Sections} {inputs inputs' : InputStore}
  {values values' : ValueStore} {outcome : Except Signal Value} {requests requests' : List String}
  {calls calls' : List (Call × Reply)} {b b' : Bool}

/-- An evaluation comes to the same result, or stops at the same field, where more is given. The
form of the field need not be known where less is given: then no result of a read was used. -/
theorem evaluates_of_more (he : library.Evaluates inputs values f outcome)
    (ha : inputs.AgreesWith library)
    (hb : ∀ q base, Name.split f = some (q, base) → inputs'.Knows library q)
    (hc : inputs.Carries counted inputs') (hv : values ≤ values')
    (ho : ∀ e, outcome = .error e → ∃ d, e = .unmet d ∧ values'.has d = false) :
    library.Evaluates inputs' values' f outcome := by
  obtain ⟨q, base, form, c, r, hl⟩ := exists_located he
  have hcounted : ∀ t ∈ r.totals, t.1 ∈ counted := by
    intro t ht
    by_cases hd : f = deductionTotal
    · subst hd
      rw [located_deductionTotal hl, List.mem_singleton] at ht
      exact ht ▸ List.mem_cons_self
    · exact List.mem_cons_of_mem _ (totals_of_ne hl hd t ht)
  have hfollows : r.Follows ⟨⟨q, values⟩, inputs⟩ ⟨⟨q, values'⟩, inputs'⟩ := by
    refine ⟨rfl, fun key hk v hp => ?_, fun t ht => hc.instances t.1 (hcounted t ht), hv⟩
    obtain ⟨hs, spec, hspec⟩ := hl.exists_inputSpec hk
    change inputs.parse (Name.scopeTo q key) = .ok v at hp
    have hx : inputs.spec? (Name.scopeTo q key) = some spec := by
      cases hx : inputs.spec? (Name.scopeTo q key) with
      | none => simp [InputStore.parse, hx] at hp
      | some spec' => rw [ha _ _ _ hx hspec]
    rcases InputStore.parse_carries hc hx (hb q base hl.split _ _ _ hs hspec) with hy | ⟨hy, -⟩
    · exact hy.trans hp
    · rw [hy] at hp
      cases hp
  rw [hl.evaluates] at he ⊢
  rcases hl.heeds.steady _ _ hfollows with hsame | hstop
  · exact hsame.trans he
  · rw [he] at hstop
    cases hstop with
    | line hd =>
      obtain ⟨d, hd', hnone⟩ := ho _ rfl
      cases hd'
      simp [hnone] at hd
    | input hk hx hy =>
      obtain ⟨d, hd, -⟩ := ho _ rfl
      exact absurd (hd ▸ hx) InputStore.parse_ne_unmet

/-- What a return over less comes to, beside one over more. -/
structure Retained (s t : Solver) : Prop where
  values : ∀ f v, s.values.get? f = some v → t.values.get? f = some v
  unimplemented : ∀ f ∈ s.unimplemented, f ∈ t.unimplemented
  forms : ∀ (q : String) (form : Form), s.forms[q]? = some form → t.forms[q]? = some form
  attempted : ∀ f ∈ s.attempted, f ∈ t.attempted
  /-- What is computed beyond it had waited for an input that came to be given. -/
  gained : ∀ f ∈ s.attempted, s.values.has f = false → t.values.has f →
    ∃ g i, ReflTransGen s.Reported f g ∧ s.inputWaits.Lists i g ∧
      s.inputs.has i = false ∧ t.inputs.has i

section ends

variable (hs : Final library (.ofSections given) requests s)
  (ht : Final library (.ofSections given') requests' t) (he : given'.Extends given)

include hs ht he

/-- Seen from less, the larger return lacks nothing. -/
theorem closed_of_more (hr : ∀ q ∈ requests, q ∈ requests') :
    Closed library requests s.inputs (· ∈ t.attempted) t.values := by
  have hregt := ht.unprompted.registered
  have hc : s.inputs.Carries counted t.inputs :=
    he.carries hs.unprompted.given ht.unprompted.given
  have hagree : s.inputs.AgreesWith library :=
    hs.unprompted.registered.agreesWith InputStore.agreesWith_ofSections
  have hclosed := ht.closed stable_library
  have hknows : ∀ f ∈ t.attempted, ∀ q base, Name.split f = some (q, base) →
      t.inputs.Knows library q := fun f hf q base hsplit =>
    hregt.knows (hregt.mem_forms hf hsplit)
  constructor
  case requested => exact fun q hq => hclosed.requested q (hr q hq)
  case demanded =>
    intro f U d hf hU hev
    refine hclosed.demanded f U d hf hU ?_
    refine evaluates_of_more hev hagree (hknows f hf) hc (ValueStore.le_refl U) fun e heq => ?_
    cases heq
    exact ⟨d, rfl, by simp [ValueStore.has, hev.absent stable_library]⟩
  case computed =>
    intro f v hf hev
    refine hclosed.computed f v hf ?_
    exact evaluates_of_more hev hagree (hknows f hf) hc (ValueStore.le_refl _) (by simp)

theorem below_of_more
    (h : Session (initial library (.ofSections given) false) (calls ++ [(.solve, .returned b)]) s)
    (hok : ErrorFree calls) (hr : ∀ q ∈ requested calls, q ∈ requests')
    (hreq : requested calls = requests) : Below (· ∈ t.attempted) t.values s := by
  subst hreq
  have hreq : requested (calls ++ [(.solve, .returned b)]) = requested calls :=
    requested_concat_solve
  exact h.stays_below stable_library InputStore.agreesWith_ofSections
    (errorFree_concat_returned hok) hs.unprompted.registered hs.unprompted.given
    (hreq ▸ closed_of_more hs ht he hr) fun _ _ _ hf => hf

/-- What an evaluation over less came to it comes to over more, unless it stopped at something that
is there now. -/
theorem evaluates_final (hb : Below (· ∈ t.attempted) t.values s) (hf : f ∈ s.attempted)
    (hev : library.Evaluates s.inputs s.values f outcome) :
    library.Evaluates t.inputs t.values f outcome ∨ Overtaken t.inputs t.values outcome := by
  have hregs := hs.unprompted.registered
  have hregt := ht.unprompted.registered
  have hc : s.inputs.Carries counted t.inputs :=
    he.carries hs.unprompted.given ht.unprompted.given
  refine carries_of_evaluates hev (fun q base hsplit => ?_)
    (fun _ hm => List.mem_cons_of_mem _ hm) (.inr List.mem_cons_self) hc hb.values
  exact ⟨hregs.knows (hregs.mem_forms hf hsplit),
    hregt.knows (hregt.mem_forms (hb.attempted f hf) hsplit)⟩

/-- A field that is computed only over more had waited for an input that is given only there. -/
theorem exists_gained (hb : Below (· ∈ t.attempted) t.values s) (hf : f ∈ s.attempted)
    (hvs : s.values.has f = false) (hvt : t.values.has f) :
    ∃ g i, ReflTransGen s.Reported f g ∧ s.inputWaits.Lists i g ∧
      s.inputs.has i = false ∧ t.inputs.has i := by
  induction hn : fieldRank f using Nat.strongRecOn generalizing f with
  | ind n ih =>
    obtain ⟨v, hv⟩ := Option.isSome_iff_exists.mp hvt
    have hevt := (ht.unprompted.recorded stable_library).committed f v hv
    obtain ⟨outcome, ho, hev⟩ := hs.unprompted.exists_outcome stable_library hs.hasWork hf
    have hcarried := evaluates_final hs ht he hb hf hev
    cases ho with
    | committed hv' => simp [ValueStore.has, hv'] at hvs
    | left hu =>
      rcases hcarried with h | h
      · cases h.unique hevt
      · cases h
    | @lacking i hw =>
      rcases hcarried with h | h
      · cases h.unique hevt
      · obtain ⟨-, -, -, -, -, hraw⟩ := split_of_missingInput hev
        cases h with
        | input hi => exact ⟨f, i, .refl, hs.lists_iff.2.mpr hw, by simp [InputStore.has, hraw], hi⟩
    | @waiting d hw =>
      rcases hcarried with h | h
      · cases h.unique hevt
      · cases h with
        | value hd =>
          have hds : s.values.has d = false := by
            simp [ValueStore.has, hev.absent stable_library]
          have hatt := (hs.unprompted.traces.waiting f d hw).1
          obtain ⟨g, i, hpath, hlist⟩ := ih _ (hn ▸ rank_of_unmet hev) hatt hds hd rfl
          exact ⟨g, i, .head (hs.lists_iff.1.mpr hw) hpath, hlist⟩

end ends

/-- Of two returns that nobody is asked about, one over inputs that hold those of the other one,
with the same sections, and with all its requests. All that the smaller one comes to stays: the
values, what is left out, and the forms. What only the larger one computes had waited, in the
smaller one, for an input that was missing. -/
theorem retained_of_more (he : given'.Extends given)
    (h : Session (initial library (.ofSections given) false) (calls ++ [(.solve, .returned b)]) s)
    (h' : Session (initial library (.ofSections given') false)
      (calls' ++ [(.solve, .returned b')]) t)
    (hok : ErrorFree calls) (hok' : ErrorFree calls')
    (hreq : ∀ q ∈ requested calls, q ∈ requested calls') : Retained s t := by
  have hs := h.final stable_library InputStore.agreesWith_ofSections hok
  have ht := h'.final stable_library InputStore.agreesWith_ofSections hok'
  have hb := below_of_more hs ht he h hok hreq rfl
  have hregs := hs.unprompted.registered
  have hregt := ht.unprompted.registered
  constructor
  case values => exact hb.values
  case attempted => exact hb.attempted
  case unimplemented =>
    intro f hf
    obtain ⟨ha, m, hev⟩ := (hs.mem_unimplemented_iff stable_library).mp hf
    rcases evaluates_final hs ht he hb ha hev with hev' | ho
    · exact (ht.mem_unimplemented_iff stable_library).mpr ⟨hb.attempted f ha, m, hev'⟩
    · cases ho
  case forms =>
    intro q form hq
    obtain ⟨hm, hi⟩ := hregs.getElem?_forms.mp hq
    refine hregt.getElem?_forms.mpr ⟨?_, hi⟩
    rcases hs.mem_forms_iff.mp hm with hr | ⟨f, hf, base, hsplit⟩
    · exact ht.requested q (hreq q hr)
    · exact hregt.mem_forms (hb.attempted f hf) hsplit
  case gained => exact fun f hf hvs hvt => exists_gained hs ht he hb hf hvs hvt

/-- A Schedule B of which one question is answered. -/
def halfAnswered : Sections := Sections.empty.set "1040_sb" "foreign_account" "no"

theorem extends_halfAnswered :
    (halfAnswered.set "1040_sb" "foreign_trust" "no").Extends halfAnswered where
  entries q key v hv := by
    rw [Sections.get?_set]
    split
    · rename_i hq
      obtain ⟨rfl, rfl⟩ := hq
      rw [halfAnswered, Sections.get?_set] at hv
      simp [Sections.empty, Sections.get?] at hv
    · exact hv
  names q := by simp [halfAnswered, Sections.mem_names_set]

set_option maxRecDepth 100000 in
/-- The other answer adds line 8, which had waited for it, and nothing else changes. -/
theorem retained_halfAnswered : ∃ s t,
    Session (initial library (.ofSections halfAnswered) false)
      ([(.addForm "1040_sb", .added)] ++ [(.solve, .returned false)]) s ∧
    Session (initial library (.ofSections (halfAnswered.set "1040_sb" "foreign_trust" "no")) false)
      ([(.addForm "1040_sb", .added)] ++ [(.solve, .returned true)]) t ∧
    s.values.has "1040_sb.8" = false ∧ t.values.has "1040_sb.8" ∧ Retained s t := by
  obtain ⟨s, hs, hvs⟩ := exists_session (initial library (.ofSections halfAnswered) false)
    (fun _ => none) 40 ([(.addForm "1040_sb", .added)] ++ [(.solve, .returned false)])
    (fun s => s.values.has "1040_sb.8") false (by decide +kernel)
  obtain ⟨t, ht, hvt⟩ := exists_session
    (initial library (.ofSections (halfAnswered.set "1040_sb" "foreign_trust" "no")) false)
    (fun _ => none) 40 ([(.addForm "1040_sb", .added)] ++ [(.solve, .returned true)])
    (fun t => t.values.has "1040_sb.8") true (by decide +kernel)
  have hok : ErrorFree [(.addForm "1040_sb", .added)] := by simp [ErrorFree]
  exact ⟨s, t, hs, ht, hvs, hvt,
    retained_of_more extends_halfAnswered hs ht hok hok fun _ hq => hq⟩

end Year2023
end TaxReturn
