import TaxReturn.Proofs.Names
import TaxReturn.Input.Store
import TaxReturn.Value.Store
import Mathlib.Data.List.Nodup

/-! What a commit and a given input do to the stores: the first value under a name stays, and
nothing else changes. -/
namespace TaxReturn

namespace ValueStore

variable {store : ValueStore} {name f : String} {value v : Value}

theorem get?_commit : (store.commit name value).get? f =
    if f = name then some ((store.get? name).getD value) else store.get? f := by
  simp only [get?, commit, Std.ExtTreeMap.getElem?_insertIfNew,
    Std.LawfulEqCmp.compare_eq_iff_eq, Std.ExtTreeMap.mem_iff_isSome_getElem?]
  by_cases h : name = f
  · subst h
    cases store.table[name]? <;> simp
  · simp [h, Ne.symm h]

/-- Values that are committed one after the other: what is there stays, and of two values under one
name the first one counts. -/
theorem get?_foldl_commit {ps : List (String × Value)} :
    (ps.foldl (fun store p => store.commit p.1 p.2) store).get? f =
      (store.get? f).or (ps.lookup f) := by
  induction ps generalizing store with
  | nil => simp
  | cons p ps ih =>
    rw [List.foldl_cons, ih, get?_commit, List.lookup_cons]
    by_cases hn : f = p.1
    · subst hn
      cases store.get? p.1 <;> simp
    · rw [if_neg hn, beq_false_of_ne hn]

theorem has_commit : (store.commit name value).has f = (decide (f = name) || store.has f) := by
  simp only [has, get?_commit]
  split <;> simp_all

theorem get_eq_ok : store.get name = .ok v ↔ store.get? name = some v := by
  unfold get
  cases store.get? name <;> simp

theorem get_eq_unmet {dep : String} :
    store.get name = .error (.unmet dep) ↔ dep = name ∧ store.get? name = none := by
  unfold get
  cases store.get? name <;> simp [eq_comm]

end ValueStore

namespace Sections

variable {s : Sections} {sec key value : String}

theorem get?_set {sec' key' : String} : (s.set sec key value).get? sec' key' =
    if sec' = sec ∧ key' = key then some value else s.get? sec' key' := by
  simp only [get?, set, Std.ExtTreeMap.getElem?_alter, Std.LawfulEqCmp.compare_eq_iff_eq]
  by_cases hs : sec = sec'
  · subst hs
    simp only [if_true, Option.bind_some, true_and, Name.getElem?_insert]
    cases s.table[sec]? <;> simp
  · simp [hs, Ne.symm hs]

/-- The section and the key that a qualified name comes apart into belong to no other name. -/
theorem bind_get?_set {n : String} (hn : Name.split n = some (sec, key)) (n' : String) :
    ((Name.split n').bind fun p => (s.set sec key value).get? p.1 p.2) =
      if n' = n then some value else (Name.split n').bind fun p => s.get? p.1 p.2 := by
  cases hn' : Name.split n' with
  | none =>
    have hne : n' ≠ n := by
      rintro rfl
      rw [hn] at hn'
      cases hn'
    rw [if_neg hne]
    rfl
  | some p =>
    obtain ⟨sec', key'⟩ := p
    have hiff : (sec' = sec ∧ key' = key) ↔ n' = n := by
      constructor
      · rintro ⟨rfl, rfl⟩
        exact (Name.split_eq_some_iff.mp hn').1.trans (Name.split_eq_some_iff.mp hn).1.symm
      · rintro rfl
        rw [hn] at hn'
        cases hn'
        exact ⟨rfl, rfl⟩
    simp only [Option.bind_some, get?_set, hiff]

theorem mem_names_set {sec' : String} :
    sec' ∈ (s.set sec key value).names ↔ sec' = sec ∨ sec' ∈ s.names := by
  simp only [names, set, Std.ExtTreeMap.mem_keys, Std.ExtTreeMap.mem_iff_isSome_getElem?,
    Std.ExtTreeMap.getElem?_alter, Std.LawfulEqCmp.compare_eq_iff_eq]
  by_cases hs : sec = sec'
  · simp [hs]
  · simp [hs, Ne.symm hs]

theorem get?_touch {name : String} : (s.touch name).get? sec key = s.get? sec key := by
  simp only [get?, touch, Std.ExtTreeMap.getElem?_alter, Std.LawfulEqCmp.compare_eq_iff_eq]
  by_cases hs : name = sec
  · subst hs
    cases s.table[name]? <;> simp
  · simp [hs]

theorem mem_names_touch {name : String} :
    sec ∈ (s.touch name).names ↔ sec = name ∨ sec ∈ s.names := by
  simp only [names, touch, Std.ExtTreeMap.mem_keys, Std.ExtTreeMap.mem_iff_isSome_getElem?,
    Std.ExtTreeMap.getElem?_alter, Std.LawfulEqCmp.compare_eq_iff_eq]
  by_cases hs : name = sec
  · simp [hs]
  · simp [hs, Ne.symm hs]

theorem nodup_names : s.names.Nodup := Std.ExtTreeMap.nodup_keys

theorem names_set_perm (key value : String) (h : sec ∉ s.names) :
    (s.set sec key value).names.Perm (sec :: s.names) := by
  rw [List.perm_ext_iff_of_nodup nodup_names (List.nodup_cons.mpr ⟨h, nodup_names⟩)]
  intro sec'
  rw [mem_names_set, List.mem_cons]

theorem names_set_perm_self (h : sec ∈ s.names) : (s.set sec key value).names.Perm s.names := by
  rw [List.perm_ext_iff_of_nodup nodup_names nodup_names]
  intro sec'
  rw [mem_names_set]
  constructor
  · rintro (rfl | hm)
    · exact h
    · exact hm
  · exact .inr

end Sections

namespace InputStore

variable {store store' : InputStore} {n raw : String} {new : Bool}

theorem specs_give (h : store.give n raw = .ok (new, store')) : store'.specs = store.specs := by
  unfold give at h
  split at h
  · cases h
  · split at h <;> cases h <;> rfl

/-- An input is given under the form and key that its name comes apart into, unless it is given
already. -/
theorem give_eq_ok (h : store.give n raw = .ok (new, store')) :
    ∃ q key, Name.split n = some (q, key) ∧
      (store.has n ∧ store' = store ∨
        store.raw? n = none ∧ store' = { store with given := store.given.set q key raw }) := by
  unfold give at h
  cases hs : Name.split n with
  | none =>
    rw [hs] at h
    cases h
  | some p =>
    obtain ⟨q, key⟩ := p
    have hraw : store.raw? n = store.given.get? q key := by simp [raw?, hs]
    rw [hs] at h
    simp only at h
    refine ⟨q, key, rfl, ?_⟩
    split at h
    · rename_i hg
      cases h
      exact .inl ⟨by simpa [has, hraw] using hg, rfl⟩
    · rename_i hg
      cases h
      exact .inr ⟨by simpa [hraw] using hg, rfl⟩

theorem raw?_give (h : store.give n raw = .ok (new, store')) {n' : String} :
    store'.raw? n' = if n' = n ∧ store.raw? n = none then some raw else store.raw? n' := by
  obtain ⟨q, key, hs, ⟨hh, rfl⟩ | ⟨hn, rfl⟩⟩ := give_eq_ok h
  · have hne : store'.raw? n ≠ none := by
      simpa [has, Option.isSome_iff_ne_none] using hh
    simp [hne]
  · simp only [hn, and_true]
    exact Sections.bind_get?_set hs n'

theorem has_give (h : store.give n raw = .ok (new, store')) : store'.has n := by
  unfold has
  rw [raw?_give h]
  by_cases hn : store.raw? n = none
  · simp [hn]
  · simpa [hn] using Option.isSome_iff_ne_none.mpr hn

theorem mem_names_give (h : store.give n raw = .ok (new, store')) {q : String}
    (hq : q ∈ store.given.names) : q ∈ store'.given.names := by
  obtain ⟨q', key, -, ⟨-, rfl⟩ | ⟨-, rfl⟩⟩ := give_eq_ok h
  · exact hq
  · exact Sections.mem_names_set.mpr (.inr hq)

/-- The instances of a form stay the same where an input is given in a section that is there, or
that is none of them. -/
theorem instances_give (h : store.give n raw = .ok (new, store')) {form q key : String}
    (hs : Name.split n = some (q, key)) (hq : q ∈ store.given.names ∨ tagOf? form q = none) :
    store'.instances form = store.instances form := by
  obtain ⟨q', key', hs', ⟨-, rfl⟩ | ⟨-, rfl⟩⟩ := give_eq_ok h
  · rfl
  · rw [hs] at hs'
    cases hs'
    apply Name.sort_eq_of_perm
    by_cases hm : q ∈ store.given.names
    · exact (Sections.names_set_perm_self hm).filterMap _
    · have ht := hq.resolve_left hm
      have := (Sections.names_set_perm key raw hm).filterMap (tagOf? form)
      simpa [ht] using this

theorem tagOf?_eq_some {form q tag : String} (h : tagOf? form q = some tag) :
    q = form ++ ":" ++ tag ∧ FormName.parse q = .ok ⟨form, some tag⟩ := by
  unfold tagOf? at h
  split at h
  · rename_i name hp
    split at h
    · rename_i hn
      have ht := FormName.text_of_parse hp
      obtain ⟨form', tag'⟩ := name
      simp only at hn h
      subst hn
      subst h
      exact ⟨ht.symm, hp⟩
    · cases h
  · cases h

theorem mem_instances {form tag : String} :
    tag ∈ store.instances form ↔ ∃ q ∈ store.given.names, tagOf? form q = some tag := by
  rw [instances, (Name.sort_perm _).mem_iff, List.mem_filterMap]

theorem tagOf?_of_mem_instances {form tag : String} (h : tag ∈ store.instances form) :
    form ++ ":" ++ tag ∈ store.given.names ∧ tagOf? form (form ++ ":" ++ tag) = some tag := by
  obtain ⟨q, hq, ht⟩ := mem_instances.mp h
  obtain ⟨rfl, -⟩ := tagOf?_eq_some ht
  exact ⟨hq, ht⟩

variable (store)

/-- A section holds one instance, and an instance stands in one section. -/
theorem nodup_instances (form : String) : (store.instances form).Nodup := by
  rw [instances, (Name.sort_perm _).nodup_iff]
  refine Sections.nodup_names.filterMap fun q q' tag hq hq' => ?_
  rw [(tagOf?_eq_some hq).1, (tagOf?_eq_some hq').1]

theorem length_instances_le (form : String) :
    (store.instances form).length ≤ store.given.names.length := by
  rw [instances, (Name.sort_perm _).length_eq]
  exact List.length_filterMap_le _ _

/-- The sections that hold the instances of a form. -/
def sectionsOf (form : String) : List String :=
  store.given.names.filter fun q => (tagOf? form q).isSome

/-- Each instance has one section, and there are no other ones. -/
theorem sectionsOf_perm (form : String) :
    ((store.instances form).map fun tag => form ++ ":" ++ tag).Perm (store.sectionsOf form) := by
  have hsections : ∀ names : List String,
      (names.filterMap (tagOf? form)).map (fun tag => form ++ ":" ++ tag) =
        names.filter fun q => (tagOf? form q).isSome := by
    intro names
    induction names with
    | nil => rfl
    | cons q rest ih =>
      cases htag : tagOf? form q with
      | none => simp [htag, ih]
      | some tag =>
        obtain ⟨rfl, -⟩ := tagOf?_eq_some htag
        simp [htag, ih]
  rw [sectionsOf, ← hsections]
  exact (Name.sort_perm _).map _

end InputStore

/-- A form of which there can be any number takes every tag. -/
theorem Library.instantiate_tagged {library : Library} {form : Form} {other q tag : String}
    (htag : InputStore.tagOf? other q = some tag) (hf : library.form? other = some form)
    (hfree : form.instancing = .free) :
    library.instantiate q = .ok (⟨other, some tag⟩, form) :=
  instantiate_of_parse (InputStore.tagOf?_eq_some htag).2 hf (by simp [Form.checkTag, hfree])

end TaxReturn
