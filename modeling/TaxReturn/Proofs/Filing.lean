import TaxReturn.Filing.Plan
import TaxReturn.Proofs.Sections

/-! A solution that is written as text loses the forms of which nothing is computed, and nothing
else. What is filed of it is then filed without these forms, in the same order. -/
namespace TaxReturn

namespace Solution

variable {sol : Solution} {q base : String}

theorem toList_toSections :
    sol.toSections.toList = sol.toList.filter fun p => !p.2.isEmpty := by
  simp only [Sections.toList, toSections, toList, Std.ExtTreeMap.toList_filter, List.filter_map]
  congr 1
  apply List.filter_congr
  intro p _
  simp

theorem mem_toList_toSections {es : List (String × String)} :
    (q, es) ∈ sol.toSections.toList ↔ (q, es) ∈ sol.forms.toList ∧ es ≠ [] := by
  rw [toList_toSections, List.mem_filter]
  simp [toList]

theorem get?_toSections : sol.toSections.get? q base = sol.get? q base := by
  apply Option.ext
  intro value
  rw [get?, ← Sections.exists_mem_toList, ← Sections.exists_mem_toList]
  constructor
  · rintro ⟨es, h, hm⟩
    exact ⟨es, (mem_toList_toSections.mp h).1, hm⟩
  · rintro ⟨es, h, hm⟩
    exact ⟨es, mem_toList_toSections.mpr ⟨h, List.ne_nil_of_mem hm⟩, hm⟩

/-- The forms that are written are those of which something is computed. -/
theorem mem_names_toSections :
    q ∈ sol.toSections.names ↔ ∃ base value, sol.get? q base = some value := by
  rw [← Sections.map_fst_toList]
  constructor
  · intro h
    obtain ⟨⟨_, es⟩, hm, rfl⟩ := List.mem_map.mp h
    obtain ⟨hm, hne⟩ := mem_toList_toSections.mp hm
    obtain ⟨⟨base, value⟩, he⟩ := List.exists_mem_of_ne_nil es hne
    exact ⟨base, value, Sections.exists_mem_toList.mp ⟨es, hm, he⟩⟩
  · rintro ⟨base, value, h⟩
    obtain ⟨es, hm, he⟩ := Sections.exists_mem_toList.mpr h
    exact List.mem_map.mpr
      ⟨(q, es), mem_toList_toSections.mpr ⟨hm, List.ne_nil_of_mem he⟩, rfl⟩

/-- Nothing is lost if something is computed of every form. -/
theorem eq_toSections_iff :
    ⟨sol.toSections⟩ = sol ↔ ∀ q ∈ sol.forms.names, ∃ base value, sol.get? q base = some value := by
  constructor
  · intro h q hq
    have hs : sol.toSections = sol.forms := congrArg Solution.forms h
    exact mem_names_toSections.mp (hs ▸ hq)
  · intro h
    have hs : sol.toSections = sol.forms := by
      apply Sections.ext_get?
      · intro q
        rw [mem_names_toSections]
        refine ⟨fun ⟨base, value, hv⟩ => ?_, h q⟩
        rw [← Sections.map_fst_toList]
        obtain ⟨es, hm, -⟩ := Sections.exists_mem_toList.mpr hv
        exact List.mem_map.mpr ⟨_, hm, rfl⟩
      · intro q base
        exact get?_toSections
    rw [hs]

theorem ofText_text (h : sol.toSections.Plain) : ofText sol.text = .ok ⟨sol.toSections⟩ := by
  rw [ofText, text, Sections.parse_text h]
  rfl

end Solution

theorem map_eq_ok {ε α β : Type} {f : α → β} {x : Except ε α} {b : β} :
    x.map f = .ok b ↔ ∃ a, x = .ok a ∧ f a = b := by
  cases x <;> simp [Except.map]

/-- An order between values is one between what the values are taken from. -/
theorem transCmp_comap {α β : Type} {cmp : β → β → Ordering} [Std.TransCmp cmp] (f : α → β) :
    Std.TransCmp fun a b => cmp (f a) (f b) where
  eq_swap := Std.OrientedCmp.eq_swap
  isLE_trans := Std.TransCmp.isLE_trans

instance : Std.TransCmp Jurisdiction.order where
  eq_swap {a b} := by
    cases a <;> cases b
    case state.state => exact Std.OrientedOrd.eq_swap (α := String)
    all_goals rfl
  isLE_trans {a b c} := by
    cases a <;> cases b <;> cases c
    case state.state.state => exact Std.TransOrd.isLE_trans (α := String)
    all_goals simp [Jurisdiction.order]

instance : Std.TransCmp FiledForm.order :=
  have := @transCmp_comap _ _ Jurisdiction.order _ FiledForm.jurisdiction
  have := @transCmp_comap _ _ Name.order _ FiledForm.form
  inferInstanceAs (Std.TransCmp (compareLex
    (fun a b => Jurisdiction.order (FiledForm.jurisdiction a) (FiledForm.jurisdiction b))
    (compareLex (compareOn FiledForm.sequence)
      fun a b => Name.order (FiledForm.form a) (FiledForm.form b))))

theorem FiledForm.form_eq_of_order {a b : FiledForm} (h : a.order b = .eq) : a.form = b.form := by
  have h := (Ordering.then_eq_eq.mp h).2
  exact Std.LawfulEqCmp.eq_of_compare (Ordering.then_eq_eq.mp h).2

theorem FiledForm.sorted_mergeSort (l : List FiledForm) :
    (l.mergeSort fun a b => (a.order b).isLE).Pairwise fun a b => (a.order b).isLE = true := by
  refine List.pairwise_mergeSort (fun a b c => Std.TransCmp.isLE_trans) (fun a b => ?_) l
  have hswap : b.order a = (a.order b).swap := Std.OrientedCmp.eq_swap
  rw [hswap]
  cases a.order b <;> rfl

/-- Forms of different names can be left out before or after they are put in order. -/
theorem filter_mergeSort {l : List FiledForm} {keep : FiledForm → Bool}
    (hd : ∀ a ∈ l, ∀ b ∈ l, a.form = b.form → a = b) :
    (l.mergeSort fun a b => (a.order b).isLE).filter keep =
      (l.filter keep).mergeSort fun a b => (a.order b).isLE := by
  have hperm := List.mergeSort_perm l fun a b => (a.order b).isLE
  refine @List.Perm.eq_of_pairwise _ (fun a b => (a.order b).isLE = true) _ _ ?_
    ((FiledForm.sorted_mergeSort l).filter keep) (FiledForm.sorted_mergeSort _)
    ((hperm.filter keep).trans (List.mergeSort_perm _ _).symm)
  intro a b ha hb hab hba
  have ha := hperm.mem_iff.mp (List.mem_of_mem_filter ha)
  have hb := List.mem_of_mem_filter ((List.mergeSort_perm _ _).mem_iff.mp hb)
  exact hd a ha b hb (FiledForm.form_eq_of_order (Std.OrientedCmp.isLE_antisymm hab hba))

namespace Library

variable {library : Library} {printed : PrintedForms} {values : ValueStore} {q : String}
  {es : List (String × String)} {ps : List (String × List (String × String))} {sol : Solution}
  {plan : List FiledForm}

theorem form_of_file? {filed : FiledForm}
    (h : library.file? printed values q es = .ok (some filed)) : filed.form = q := by
  unfold file? at h
  split at h
  · cases h
  · split at h
    · cases h
    · split at h
      · simp only at h
        generalize PrintedForm.entries q es _ = entries at h
        cases entries <;> cases h
        rfl
      · cases h

/-- Forms are settled one by one, and each of them has to be. -/
theorem fileAll_eq_ok : library.fileAll printed values ps = .ok plan ↔
    (∀ p ∈ ps, ∃ filed, library.file? printed values p.1 p.2 = .ok filed) ∧
      ps.flatMap (fun p => (library.file? printed values p.1 p.2).toOption.join.toList) = plan := by
  induction ps generalizing plan with
  | nil => simp [fileAll]
  | cons p ps ih =>
    obtain ⟨q, es⟩ := p
    rw [fileAll, List.forall_mem_cons, List.flatMap_cons]
    cases hf : library.file? printed values q es with
    | error e => simp
    | ok filed =>
      have hjoin : (Except.ok filed : Except FilingError _).toOption.join = filed := rfl
      simp only [map_eq_ok, ih, Except.ok.injEq, exists_eq', true_and, hjoin]
      constructor
      · rintro ⟨rest, ⟨hall, rfl⟩, he⟩
        exact ⟨hall, he⟩
      · rintro ⟨hall, he⟩
        exact ⟨_, ⟨hall, rfl⟩, he⟩

theorem mem_fileAll (h : library.fileAll printed values ps = .ok plan) {filed : FiledForm}
    (hf : filed ∈ plan) : ∃ p ∈ ps, library.file? printed values p.1 p.2 = .ok (some filed) := by
  obtain ⟨hall, rfl⟩ := fileAll_eq_ok.mp h
  obtain ⟨p, hp, hf⟩ := List.mem_flatMap.mp hf
  obtain ⟨result, he⟩ := hall p hp
  rw [he, Option.mem_toList] at hf
  exact ⟨p, hp, he.trans (congrArg Except.ok hf)⟩

theorem entries_nil (fields : List PrintedField) : PrintedForm.entries q [] fields = .ok [] := by
  induction fields with
  | nil => rfl
  | cons field fields ih => simpa [PrintedForm.entries] using ih

/-- A name of the library. -/
def Names (library : Library) (q : String) : Prop :=
  ∃ name form, FormName.parse q = .ok name ∧ library.form? name.name = some form

theorem exists_file?_nil (h : library.Names q) :
    ∃ filed, library.file? printed values q [] = .ok filed := by
  obtain ⟨name, form, hp, hf⟩ := h
  simp only [file?, hp, hf, entries_nil]
  split
  · exact ⟨_, rfl⟩
  · exact ⟨_, rfl⟩

/-- Forms without fields can be left out before or after it is settled what to file. -/
theorem fileAll_filter {names : List String} (hn : ∀ p ∈ ps, library.Names p.1)
    (hp : ∀ p ∈ ps, p.1 ∈ names ↔ p.2 ≠ []) :
    library.fileAll printed values (ps.filter fun p => !p.2.isEmpty) =
      (library.fileAll printed values ps).map
        (·.filter fun filed => decide (filed.form ∈ names)) := by
  induction ps with
  | nil => rfl
  | cons p ps ih =>
    obtain ⟨q, es⟩ := p
    have ih := ih (fun p h => hn p (List.mem_cons_of_mem _ h))
      fun p h => hp p (List.mem_cons_of_mem _ h)
    have hq : q ∈ names ↔ es ≠ [] := hp (q, es) List.mem_cons_self
    rw [fileAll]
    by_cases hes : es = []
    · subst hes
      obtain ⟨filed, hf⟩ := @exists_file?_nil library printed values q (hn _ List.mem_cons_self)
      have hdrop : filed.toList.filter (fun filed => decide (filed.form ∈ names)) = [] := by
        rw [List.filter_eq_nil_iff]
        intro a ha
        rw [Option.mem_toList] at ha
        rw [form_of_file? (ha ▸ hf)]
        simpa using hq
      simp only [List.isEmpty_nil, Bool.not_true, Bool.false_eq_true, not_false_eq_true,
        List.filter_cons_of_neg, hf]
      rw [ih]
      cases library.fileAll printed values ps with
      | error e => rfl
      | ok rest => simp [Except.map, hdrop]
    · have hkeep : (!es.isEmpty) = true := by simpa using hes
      have hcons : ((q, es) :: ps).filter (fun p => !p.2.isEmpty) =
          (q, es) :: ps.filter fun p => !p.2.isEmpty := List.filter_cons_of_pos hkeep
      rw [hcons, fileAll]
      cases hf : library.file? printed values q es with
      | error e => rfl
      | ok filed =>
        have hkept : filed.toList.filter (fun filed => decide (filed.form ∈ names)) =
            filed.toList := by
          rw [List.filter_eq_self]
          intro a ha
          rw [Option.mem_toList] at ha
          rw [form_of_file? (ha ▸ hf)]
          simpa using hq.mpr hes
        simp only
        rw [ih]
        cases library.fileAll printed values ps with
        | error e => rfl
        | ok rest => simp [Except.map, hkept]

/-- A form without fields holds no values. -/
theorem decode_toSections : library.decode ⟨sol.toSections⟩ = library.decode sol := by
  have hflat : ∀ ps : List (String × List (String × String)),
      (ps.filter fun p => !p.2.isEmpty).flatMap (fun p => p.2.map fun f => (p.1, f.1, f.2)) =
        ps.flatMap fun p => p.2.map fun f => (p.1, f.1, f.2) := by
    intro ps
    induction ps with
    | nil => rfl
    | cons p ps ih =>
      obtain ⟨q, es⟩ := p
      cases es with
      | nil => simpa using ih
      | cons e es => simpa using ih
  rw [decode, decode, Solution.toList, Solution.toList_toSections, hflat]

/-- What is filed of a solution without the forms of which nothing is computed is what is filed of
the solution, without these forms. -/
theorem plan_toSections (hn : ∀ q ∈ sol.forms.names, library.Names q) :
    library.plan printed ⟨sol.toSections⟩ = (library.plan printed sol).map
      (·.filter fun filed => decide (filed.form ∈ sol.toSections.names)) := by
  have hnames : ∀ p ∈ sol.toList, p.1 ∈ sol.forms.names := by
    intro p hp
    rw [← Sections.map_fst_toList]
    exact List.mem_map_of_mem hp
  have hmem : ∀ p ∈ sol.toList, p.1 ∈ sol.toSections.names ↔ p.2 ≠ [] := by
    rintro ⟨q, es⟩ hp
    rw [← Sections.map_fst_toList]
    constructor
    · intro h
      obtain ⟨⟨_, es'⟩, hm, rfl⟩ := List.mem_map.mp h
      obtain ⟨hm, hne⟩ := Solution.mem_toList_toSections.mp hm
      exact Sections.eq_of_mem_toList hm hp ▸ hne
    · intro h
      exact List.mem_map.mpr ⟨(q, es), Solution.mem_toList_toSections.mpr ⟨hp, h⟩, rfl⟩
  rw [plan, plan, decode_toSections]
  cases library.decode sol with
  | error e => rfl
  | ok values =>
    have hall := @fileAll_filter library printed values sol.toList sol.toSections.names
      (fun p hp => hn p.1 (hnames p hp)) hmem
    simp only
    rw [Solution.toList, Solution.toList_toSections, hall]
    cases hfile : library.fileAll printed values sol.toList with
    | error e => rfl
    | ok filed =>
      simp only [Except.map]
      rw [filter_mergeSort]
      intro a ha b hb hab
      obtain ⟨p, hp, hpa⟩ := mem_fileAll hfile ha
      obtain ⟨p', hp', hpb⟩ := mem_fileAll hfile hb
      have he : p = p' := by
        have hfst : p.1 = p'.1 := by
          rw [← form_of_file? hpa, ← form_of_file? hpb, hab]
        obtain ⟨q, es⟩ := p
        obtain ⟨q', es'⟩ := p'
        obtain rfl : q = q' := hfst
        rw [Sections.eq_of_mem_toList hp hp']
      subst he
      rw [hpa] at hpb
      cases hpb
      rfl

end Library
end TaxReturn
