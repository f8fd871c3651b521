import TaxReturn.Waitlist
import Mathlib.Algebra.BigOperators.Group.List.Basic
import Mathlib.Algebra.GroupWithZero.Nat
import Mathlib.Data.List.Nodup

/-! Waiters are counted over all the lists of a waitlist. Adding one raises its count, meeting a
name leaves the counts alone, and a release hands over exactly what it takes out. -/
namespace TaxReturn

namespace Name

variable {α : Type} {t : Table α} {k : String}

/-- An entry of a table stands in its list beside the entries of the other keys. -/
theorem toList_perm_erase {v : α} (h : t[k]? = some v) :
    t.toList.Perm ((k, v) :: (t.erase k).toList) := by
  have nodup : ∀ t : Table α, t.toList.Nodup := fun t =>
    t.distinct_keys_toList.imp fun hab he => hab (by simp [he])
  have hk : (k, v) ∉ (t.erase k).toList := by simp
  rw [List.perm_ext_iff_of_nodup (nodup t) (List.nodup_cons.mpr ⟨hk, nodup _⟩)]
  rintro ⟨a, b⟩
  by_cases ha : k = a
  · subst a
    simp [h, eq_comm]
  · simp [Std.ExtTreeMap.getElem?_erase, ha, Ne.symm ha]

theorem erase_eq_self (h : t[k]? = none) : t.erase k = t := by
  apply Std.ExtTreeMap.ext_getElem?
  intro a
  rw [Std.ExtTreeMap.getElem?_erase]
  split
  · rename_i hk
    rw [← Std.LawfulEqCmp.compare_eq_iff_eq.mp hk, h]
  · rfl

theorem erase_insert (t : Table α) (k : String) (v : α) : (t.insert k v).erase k = t.erase k := by
  apply Std.ExtTreeMap.ext_getElem?
  intro a
  simp only [Std.ExtTreeMap.getElem?_erase, Std.ExtTreeMap.getElem?_insert]
  split <;> rfl

end Name

namespace Waitlist

/-- How often a waiter stands in the lists of a table. -/
def occurrencesIn (waiting : Name.Table (List String)) (waiter : String) : Nat :=
  (waiting.toList.map fun p => p.2.count waiter).sum

/-- How often a waiter stands in the lists of a waitlist. -/
def occurrences (w : Waitlist) (waiter : String) : Nat := occurrencesIn w.waiting waiter

variable {w : Waitlist} {waiting : Name.Table (List String)} {name other waiter f : String}

theorem occurrencesIn_erase (waiting : Name.Table (List String)) (name : String) :
    occurrencesIn waiting f =
      (waiting[name]?.getD []).count f + occurrencesIn (waiting.erase name) f := by
  cases h : waiting[name]? with
  | none =>
    simp [Name.erase_eq_self h]
  | some l =>
    rw [occurrencesIn, ((Name.toList_perm_erase h).map _).sum_eq]
    simp [occurrencesIn]

theorem occurrencesIn_insert {l : List String} : occurrencesIn (waiting.insert name l) f =
    l.count f + occurrencesIn (waiting.erase name) f := by
  rw [occurrencesIn_erase _ name, Name.erase_insert]
  simp

@[simp] theorem occurrences_empty : empty.occurrences f = 0 := by
  have h : (∅ : Name.Table (List String)).toList = [] := by simp
  simp [empty, occurrences, occurrencesIn, h]

@[simp] theorem waiters_empty : empty.waiters name = [] := by simp [empty, waiters]

theorem waiters_add :
    (w.add name waiter).waiters other =
      if other = name then w.waiters name ++ [waiter] else w.waiters other := by
  simp only [add, waiters, Std.ExtTreeMap.getElem?_insert, Std.LawfulEqCmp.compare_eq_iff_eq]
  by_cases h : name = other
  · simp [h]
  · simp [h, Ne.symm h]

theorem mem_waiters_add : f ∈ (w.add name waiter).waiters other ↔
    f ∈ w.waiters other ∨ (f = waiter ∧ other = name) := by
  rw [waiters_add]
  by_cases h : other = name <;> simp [h]

theorem occurrences_add :
    (w.add name waiter).occurrences f = w.occurrences f + if f = waiter then 1 else 0 := by
  simp only [occurrences, add, occurrencesIn_insert, waiters]
  rw [occurrencesIn_erase w.waiting name]
  by_cases h : f = waiter
  · simp [h]
    omega
  · simp [h, Ne.symm h]

@[simp] theorem occurrences_meet : (w.meet name).occurrences f = w.occurrences f := rfl

@[simp] theorem met_meet : (w.meet name).met = w.met ++ [name] := rfl

theorem occurrences_eq_zero_iff : w.occurrences f = 0 ↔ ∀ name, f ∉ w.waiters name := by
  simp only [occurrences, occurrencesIn, List.sum_eq_zero_iff_forall_eq_nat, List.mem_map,
    Prod.exists, Std.ExtTreeMap.mem_toList_iff_getElem?_eq_some, waiters]
  constructor
  · intro h name
    cases hn : w.waiting[name]? with
    | none => simp
    | some l =>
      have := h _ ⟨name, l, hn, rfl⟩
      simpa [List.count_eq_zero] using this
  · rintro h n ⟨name, l, hn, rfl⟩
    have := h name
    rw [hn] at this
    simpa [List.count_eq_zero] using this

theorem count_waiters_le : (w.waiters name).count f ≤ w.occurrences f := by
  rw [occurrences, occurrencesIn_erase w.waiting name]
  exact Nat.le_add_right _ _

section release

variable {met : List String}

theorem occurrences_releaseAllFrom :
    (releaseAllFrom waiting met).1.count f + (releaseAllFrom waiting met).2.occurrences f =
      occurrencesIn waiting f := by
  induction met generalizing waiting with
  | nil => simp [releaseAllFrom, occurrences]
  | cons name rest ih =>
    simp only [releaseAllFrom, List.count_append]
    rw [Nat.add_assoc, ih, ← occurrencesIn_erase]

theorem waiters_releaseAllFrom : (releaseAllFrom waiting met).2.waiters other =
    if other ∈ met then [] else waiting[other]?.getD [] := by
  induction met generalizing waiting with
  | nil => simp [releaseAllFrom, waiters]
  | cons name rest ih =>
    simp only [releaseAllFrom, ih, Std.ExtTreeMap.getElem?_erase,
      Std.LawfulEqCmp.compare_eq_iff_eq, List.mem_cons]
    by_cases h : name = other
    · simp [h]
    · simp [h, Ne.symm h]

theorem mem_releaseAllFrom :
    f ∈ (releaseAllFrom waiting met).1 ↔ ∃ name ∈ met, f ∈ waiting[name]?.getD [] := by
  induction met generalizing waiting with
  | nil => simp [releaseAllFrom]
  | cons name rest ih =>
    simp only [releaseAllFrom, List.mem_append, ih, Std.ExtTreeMap.getElem?_erase,
      Std.LawfulEqCmp.compare_eq_iff_eq, List.mem_cons, exists_eq_or_imp]
    by_cases h : f ∈ waiting[name]?.getD []
    · simp [h]
    · simp only [h, false_or]
      constructor
      · rintro ⟨d, hd, hf⟩
        split at hf
        · simp at hf
        · exact ⟨d, hd, hf⟩
      · rintro ⟨d, hd, hf⟩
        refine ⟨d, hd, ?_⟩
        split
        · rename_i he
          subst he
          exact absurd hf h
        · exact hf

theorem occurrences_releaseAll :
    w.releaseAll.1.count f + w.releaseAll.2.occurrences f = w.occurrences f :=
  occurrences_releaseAllFrom

theorem waiters_releaseAll :
    w.releaseAll.2.waiters other = if other ∈ w.met then [] else w.waiters other :=
  waiters_releaseAllFrom

theorem mem_releaseAll : f ∈ w.releaseAll.1 ↔ ∃ name ∈ w.met, f ∈ w.waiters name :=
  mem_releaseAllFrom

@[simp] theorem met_releaseAll : w.releaseAll.2.met = [] := by
  rw [releaseAll]
  generalize w.waiting = waiting
  induction w.met generalizing waiting with
  | nil => rfl
  | cons name rest ih => exact ih _

theorem releaseAll_of_met (h : w.met = []) : w.releaseAll = ([], w) := by
  obtain ⟨waiting, met⟩ := w
  obtain rfl : met = [] := h
  rfl

end release

theorem mem_unmet {waiters : List String} : (name, waiters) ∈ w.unmet ↔
    w.waiters name = waiters ∧ waiters ≠ [] ∧ name ∉ w.met := by
  simp only [unmet, List.mem_filter, Std.ExtTreeMap.mem_toList_iff_getElem?_eq_some,
    Waitlist.waiters]
  constructor
  · rintro ⟨hl, hm⟩
    simpa [hl] using hm
  · rintro ⟨rfl, hw, hm⟩
    cases hl : w.waiting[name]? with
    | none => simp [hl] at hw
    | some l =>
      rw [hl] at hw
      exact ⟨rfl, by simp_all⟩

theorem mem_unmetNames : name ∈ w.unmetNames ↔ w.waiters name ≠ [] ∧ name ∉ w.met := by
  simp only [unmetNames, List.mem_map, Prod.exists, mem_unmet]
  constructor
  · rintro ⟨n, l, ⟨rfl, hw, hm⟩, rfl⟩
    exact ⟨hw, hm⟩
  · rintro ⟨hw, hm⟩
    exact ⟨name, _, ⟨rfl, hw, hm⟩, rfl⟩

/-- A waiter is listed under a name that is not met. -/
def Lists (w : Waitlist) (name waiter : String) : Prop :=
  ∃ waiters, (name, waiters) ∈ w.unmet ∧ waiter ∈ waiters

theorem lists_iff : w.Lists name f ↔ f ∈ w.waiters name ∧ name ∉ w.met := by
  simp only [Lists, mem_unmet]
  constructor
  · rintro ⟨l, ⟨rfl, -, hm⟩, hf⟩
    exact ⟨hf, hm⟩
  · rintro ⟨hf, hm⟩
    exact ⟨_, ⟨rfl, List.ne_nil_of_mem hf, hm⟩, hf⟩

theorem hasUnmet_eq_false_iff :
    w.hasUnmet = false ↔ ∀ name, name ∉ w.met → w.waiters name = [] := by
  have h : w.hasUnmet = false ↔ w.unmetNames = [] := by simp [hasUnmet, unmetNames]
  rw [h, List.eq_nil_iff_forall_not_mem]
  constructor
  · intro hn name hm
    by_contra hw
    exact hn name (mem_unmetNames.mpr ⟨hw, hm⟩)
  · intro hn name hm
    obtain ⟨hw, hm⟩ := mem_unmetNames.mp hm
    exact hw (hn name hm)

theorem hasMet_eq_false_iff : w.hasMet = false ↔ w.met = [] := by simp [hasMet]

end Waitlist

end TaxReturn
