import TaxReturn.Report
import TaxReturn.Proofs.Stores
import TaxReturn.Proofs.Solver.Growth
import Mathlib.Data.List.Dedup

/-! What is kept under names keeps them apart, however alike they read. After any series of writes
there is one entry for each name that was written under, and the entries stand as sorting puts the
names, in whichever order they were written. -/
namespace TaxReturn

namespace Name

variable {α : Type} {t : Table α} {names : List String}

theorem pairwise_keys (t : Table α) : t.keys.Pairwise (le · ·) :=
  Std.ExtTreeMap.ordered_keys.imp fun h => by rw [le, h]; rfl

/-- Which names there are settles where they stand. -/
theorem keys_eq_sort (h : ∀ n, n ∈ t ↔ n ∈ names) : t.keys = sort names.dedup := by
  refine List.Perm.eq_of_pairwise (fun _ _ _ _ => le_antisymm) (pairwise_keys t)
    (pairwise_sort _) (List.Perm.trans ?_ (sort_perm _).symm)
  rw [List.perm_ext_iff_of_nodup Std.ExtTreeMap.nodup_keys names.nodup_dedup]
  intro n
  rw [Std.ExtTreeMap.mem_keys, h, List.mem_dedup]

end Name

namespace ValueStore

/-- Commit values one after the other. -/
def commitAll (store : ValueStore) (writes : List (String × Value)) : ValueStore :=
  writes.foldl (fun store write => store.commit write.1 write.2) store

variable {store : ValueStore} {writes : List (String × Value)}

theorem keys_commitAll (store : ValueStore) (writes : List (String × Value)) :
    (store.commitAll writes).table.keys =
      Name.sort (store.table.keys ++ writes.map Prod.fst).dedup := by
  refine Name.keys_eq_sort fun n => ?_
  have hget : (store.commitAll writes).get? n = _ := get?_foldl_commit
  have hlookup : (writes.lookup n).isSome ↔ n ∈ writes.map Prod.fst := by
    simp [List.lookup_isSome_iff]
  rw [List.mem_append, Std.ExtTreeMap.mem_keys, Std.ExtTreeMap.mem_iff_isSome_getElem?,
    Std.ExtTreeMap.mem_iff_isSome_getElem?, ← hlookup]
  change ((store.commitAll writes).get? n).isSome ↔ (store.get? n).isSome ∨ _
  rw [hget, Option.isSome_or, Bool.or_eq_true]

end ValueStore

namespace Sections

/-- Set values one after the other, each under its section and key. -/
def writeAll (s : Sections) (writes : List ((String × String) × String)) : Sections :=
  writes.foldl (fun s write => s.set write.1.1 write.1.2 write.2) s

/-- Under each section and key the last value stands. -/
theorem get?_writeAll (s : Sections) (writes : List ((String × String) × String))
    (sec key : String) : (s.writeAll writes).get? sec key = (writes.reverse.lookup (sec, key)).or (s.get? sec key) := by
  induction writes generalizing s with
  | nil => rfl
  | cons write rest ih =>
    obtain ⟨⟨sec', key'⟩, value⟩ := write
    change ((s.set sec' key' value).writeAll rest).get? sec key = _
    rw [ih, get?_set, List.reverse_cons, List.lookup_append, Option.or_assoc, List.lookup_cons]
    by_cases h : sec = sec' ∧ key = key'
    · simp [h]
    · have hne : ((sec, key) == (sec', key')) = false := by simpa using h
      rw [if_neg h, hne]
      rfl

theorem names_writeAll (s : Sections) (writes : List ((String × String) × String)) :
    (s.writeAll writes).names = Name.sort (s.names ++ writes.map (·.1.1)).dedup := by
  refine Name.keys_eq_sort fun n => ?_
  rw [← Std.ExtTreeMap.mem_keys]
  change n ∈ (s.writeAll writes).names ↔ _
  induction writes generalizing s with
  | nil => simp [writeAll]
  | cons write rest ih =>
    have h := ih (s.set write.1.1 write.1.2 write.2)
    rw [writeAll, List.foldl_cons]
    rw [writeAll] at h
    rw [h]
    simp only [List.mem_append, mem_names_set, List.map_cons, List.mem_cons]
    tauto

end Sections

namespace Solution

/-- Insert fields one after the other. -/
def insertAll (solution : Solution) (writes : List (String × String)) : Except TaxError Solution :=
  writes.foldlM (fun solution write => solution.insert write.1 write.2) solution

theorem getQualified?_insert {solution t : Solution} {q' text : String}
    (h : solution.insert q' text = .ok t) (q : String) :
    t.getQualified? q = if q = q' then some text else solution.getQualified? q := by
  unfold insert at h
  cases hs : Name.split q' with
  | none => simp [hs] at h
  | some p =>
    simp only [hs, Except.ok.injEq] at h
    subst h
    exact Sections.bind_get?_set hs q

theorem exists_insertAll (solution : Solution) {writes : List (String × String)}
    (hw : ∀ write ∈ writes, '.' ∈ write.1.toList) :
    ∃ t, solution.insertAll writes = .ok t ∧
      ∀ q, t.getQualified? q = (writes.reverse.lookup q).or (solution.getQualified? q) := by
  induction writes generalizing solution with
  | nil => exact ⟨solution, rfl, fun q => rfl⟩
  | cons write rest ih =>
    obtain ⟨q', text⟩ := write
    obtain ⟨hq', hrest⟩ := List.forall_mem_cons.mp hw
    obtain ⟨next, hn⟩ : ∃ next, solution.insert q' text = .ok next := by
      unfold insert
      cases hs : Name.split q' with
      | none => exact absurd hq' (Name.split_eq_none_iff.mp hs)
      | some p => exact ⟨_, rfl⟩
    obtain ⟨t, ht, hget⟩ := ih next hrest
    refine ⟨t, ?_, fun q => ?_⟩
    · rw [insertAll, List.foldlM_cons, hn]
      exact ht
    · rw [hget, getQualified?_insert hn, List.reverse_cons, List.lookup_append, Option.or_assoc,
        List.lookup_cons]
      by_cases h : q = q'
      · simp [h]
      · have hne : (q == q') = false := by simpa using h
        rw [if_neg h, hne]
        rfl

end Solution

namespace Solver

variable {s t : Solver} {requests : List String}

/-- A form that is asked for is there afterwards, and the others are as they were. -/
theorem getElem?_forms_addForm {request : String} (ha : s.addForm request = .ok t) (q : String) :
    t.forms[q]? = (s.forms[q]?).or
      (if q = request then (s.library.instantiate q).toOption.map Prod.snd else none) := by
  obtain ⟨name, form, hi, ⟨hq, rfl⟩ | ⟨hq, rfl⟩⟩ := addForm_eq_ok ha
  · by_cases heq : q = request
    · subst heq
      obtain ⟨form', hf⟩ := Name.mem_iff_getElem?.mp hq
      rw [hf]
      rfl
    · simp [heq]
  · rw [forms_takeUp, Name.getElem?_insert, Library.text_of_instantiate hi]
    by_cases heq : q = request
    · subst heq
      rw [Name.mem_iff_getElem?, not_exists] at hq
      simp [hi, Except.toOption, Option.eq_none_iff_forall_ne_some.mpr hq]
    · simp [heq]

theorem mem_forms_of_addForm {request : String} (ha : s.addForm request = .ok t) {q : String} :
    q ∈ t.forms ↔ q ∈ s.forms ∨ q = request := by
  obtain ⟨name, form, hi, ⟨hq, rfl⟩ | ⟨-, rfl⟩⟩ := addForm_eq_ok ha
  · exact (or_iff_left_of_imp fun h => h ▸ hq).symm
  · rw [forms_takeUp, Std.ExtTreeMap.mem_insert, Std.LawfulEqCmp.compare_eq_iff_eq,
      Library.text_of_instantiate hi, or_comm, eq_comm]

theorem forms_addForms (ha : s.addForms requests = .ok t) (q : String) :
    t.forms[q]? = (s.forms[q]?).or
      (if q ∈ requests then (s.library.instantiate q).toOption.map Prod.snd else none) := by
  induction requests generalizing s with
  | nil =>
    cases ha
    simp
  | cons request rest ih =>
    rw [addForms] at ha
    split at ha
    · cases ha
    · rename_i s' hs'
      obtain ⟨new, hg⟩ := addForm_grows hs'
      rw [ih ha, getElem?_forms_addForm hs', hg.library, Option.or_assoc]
      congr 1
      by_cases heq : q = request
      · subst heq
        by_cases hm : q ∈ rest <;> simp [hm]
      · simp [heq]

theorem keys_addForms (ha : s.addForms requests = .ok t) :
    t.forms.keys = Name.sort (s.forms.keys ++ requests).dedup := by
  refine Name.keys_eq_sort fun q => ?_
  rw [List.mem_append, Std.ExtTreeMap.mem_keys]
  induction requests generalizing s with
  | nil =>
    cases ha
    simp
  | cons request rest ih =>
    rw [addForms] at ha
    split at ha
    · cases ha
    · rename_i s' hs'
      rw [ih ha, mem_forms_of_addForm hs', List.mem_cons, or_assoc]

end Solver

namespace Name

/-- The order of names is total, and only a name itself stands where it does. So nothing that is
kept under names, the values, the sections, the fields of a solution and the forms that are taken
up, loses one of two names to the other, and sorting leaves no choice. -/
theorem distinct_names_kept_apart :
    (∀ a b, order a b = (order b a).swap) ∧ (∀ a b, order a b = .eq ↔ a = b) ∧
      (∀ a b c, le a b → le b c → le a c) ∧
      (∀ (store : ValueStore) (writes : List (String × Value)),
        (store.commitAll writes).table.keys =
          sort (store.table.keys ++ writes.map Prod.fst).dedup ∧
        ∀ n, (store.commitAll writes).get? n = (store.get? n).or (writes.lookup n)) ∧
      (∀ (sections : Sections) (writes : List ((String × String) × String)),
        (sections.writeAll writes).names = sort (sections.names ++ writes.map (·.1.1)).dedup ∧
        ∀ sec key, (sections.writeAll writes).get? sec key =
          (writes.reverse.lookup (sec, key)).or (sections.get? sec key)) ∧
      (∀ (solution : Solution) (writes : List (String × String)),
        (∀ write ∈ writes, '.' ∈ write.1.toList) → ∃ t, solution.insertAll writes = .ok t ∧
          ∀ q, t.getQualified? q = (writes.reverse.lookup q).or (solution.getQualified? q)) ∧
      (∀ (s t : Solver) (requests : List String), s.addForms requests = .ok t →
        t.forms.keys = sort (s.forms.keys ++ requests).dedup ∧
        ∀ q, t.forms[q]? = (s.forms[q]?).or
          (if q ∈ requests then (s.library.instantiate q).toOption.map Prod.snd else none)) ∧
      ∀ names names' : List String, names.Perm names' → sort names = sort names' :=
  ⟨fun _ _ => Std.OrientedCmp.eq_swap, fun _ _ => Std.LawfulEqCmp.compare_eq_iff_eq,
    fun _ _ _ => le_trans, fun store writes => ⟨store.keys_commitAll writes,
      fun _ => ValueStore.get?_foldl_commit⟩,
    fun sections writes => ⟨sections.names_writeAll writes, sections.get?_writeAll writes⟩,
    fun solution _ => solution.exists_insertAll,
    fun _ _ _ ha => ⟨Solver.keys_addForms ha, Solver.forms_addForms ha⟩,
    fun _ _ => sort_eq_of_perm⟩

/-- Two fields whose names read alike, run by run. -/
theorem distinct_names_kept_apart_alike :
    formRuns "1040.01" = formRuns "1040.1" ∧ localRuns "1040.01" = localRuns "1040.1" ∧
      order "1040.01" "1040.1" ≠ .eq ∧ le "1040.01" "1040.10" ∧
      sort ["1040.1", "1040.01"] = sort ["1040.01", "1040.1"] ∧
      ∃ t, Solution.empty.insertAll [("1040.01", "5"), ("1040.1", "7")] = .ok t ∧
        t.getQualified? "1040.01" = some "5" ∧ t.getQualified? "1040.1" = some "7" := by
  obtain ⟨-, heq, htrans, -, -, hsolution, -, hsort⟩ := distinct_names_kept_apart
  obtain ⟨t, ht, hget⟩ := hsolution .empty [("1040.01", "5"), ("1040.1", "7")] (by decide)
  refine ⟨by decide, by decide, ?_, htrans _ "1040.1" _ (by decide) (by decide),
    hsort _ _ (.swap _ _ _), t, ht, ?_, ?_⟩
  · rw [ne_eq, heq]
    decide
  · rw [hget]
    rfl
  · rw [hget]
    rfl

end Name
end TaxReturn
