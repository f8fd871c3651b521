import TaxReturn.Form

/-! Qualified names come apart into what they were put together from, and a form that is taken up
goes by the name that it was asked for under. -/
namespace TaxReturn

theorem toOption_eq_some_iff {ε α : Type} {x : Except ε α} {a : α} :
    x.toOption = some a ↔ x = .ok a := by
  cases x <;> simp [Except.toOption]

namespace Name

variable {name form base : String}

theorem split_eq_some_iff :
    split name = some (form, base) ↔ name = form ++ "." ++ base ∧ '.' ∉ form.toList := by
  simp only [split, Text.cut, Option.map_eq_some_iff, Prod.exists, Prod.mk.injEq]
  constructor
  · rintro ⟨a, b, h, rfl, rfl⟩
    obtain ⟨hc, hp⟩ := Text.cutChars_eq_some h
    refine ⟨?_, by simpa using hp⟩
    apply String.toList_injective
    simp [hc]
  · rintro ⟨rfl, hp⟩
    refine ⟨form.toList, base.toList, ?_, String.ofList_toList, String.ofList_toList⟩
    have := Text.cutChars_append (b := base.toList) hp
    simpa using this

theorem split_eq_none_iff : split name = none ↔ '.' ∉ name.toList := by
  rw [split, Text.cut, Option.map_eq_none_iff]
  exact Text.cutChars_eq_none_iff

theorem split_scoped (h : '.' ∉ form.toList) : split (form ++ "." ++ base) = some (form, base) :=
  split_eq_some_iff.mpr ⟨rfl, h⟩

/-- A bare key is scoped to a form. -/
theorem scopeTo_of_split_none {key : String} (h : split key = none) :
    scopeTo form key = form ++ "." ++ key := by
  simp [scopeTo, split_eq_none_iff.mp h]

/-- A qualified key stands as it is. -/
theorem scopeTo_of_split_some {key : String} {p : String × String} (h : split key = some p) :
    scopeTo form key = key := by
  have hm : ¬ '.' ∉ key.toList := by
    intro hno
    rw [split_eq_none_iff.mpr hno] at h
    cases h
  simp [scopeTo, Decidable.not_not.mp hm]

theorem mem_insert {set : Name.Set} {a b : String} : a ∈ set.insert b ↔ a = b ∨ a ∈ set := by
  rw [Std.ExtTreeSet.mem_insert, Std.LawfulEqCmp.compare_eq_iff_eq, eq_comm]

theorem mem_erase {set : Name.Set} {a b : String} : a ∈ set.erase b ↔ a ≠ b ∧ a ∈ set := by
  rw [Std.ExtTreeSet.mem_erase, ne_eq, Std.LawfulEqCmp.compare_eq_iff_eq, eq_comm]

theorem contains_eq_false {set : Name.Set} {a : String} : set.contains a = false ↔ a ∉ set := by
  rw [← Std.ExtTreeSet.contains_iff_mem, Bool.not_eq_true]

theorem contains_erase {set : Name.Set} {a b : String} :
    (set.erase b).contains a = (!decide (a = b) && set.contains a) := by
  rw [Bool.eq_iff_iff, Std.ExtTreeSet.contains_iff_mem, mem_erase]
  simp

theorem getElem?_insert {α : Type} {t : Name.Table α} {a b : String} {v : α} :
    (t.insert a v)[b]? = if b = a then some v else t[b]? := by
  simp only [Std.ExtTreeMap.getElem?_insert, Std.LawfulEqCmp.compare_eq_iff_eq, @eq_comm _ a]

theorem getElem?_erase {α : Type} {t : Name.Table α} {a b : String} :
    (t.erase a)[b]? = if b = a then none else t[b]? := by
  simp only [Std.ExtTreeMap.getElem?_erase, Std.LawfulEqCmp.compare_eq_iff_eq, @eq_comm _ a]

theorem mem_iff_getElem? {α : Type} {t : Name.Table α} {a : String} :
    a ∈ t ↔ ∃ v, t[a]? = some v := by
  rw [Std.ExtTreeMap.mem_iff_isSome_getElem?, Option.isSome_iff_exists]

theorem le_total (a b : String) : le a b ∨ le b a := by
  have hswap : order b a = (order a b).swap := Std.OrientedCmp.eq_swap
  rw [le, le, hswap]
  cases order a b <;> decide

theorem le_trans {a b c : String} (h : le a b) (h' : le b c) : le a c :=
  Std.TransCmp.isLE_trans h h'

theorem le_antisymm {a b : String} (h : le a b) (h' : le b a) : a = b :=
  Std.LawfulEqCmp.eq_of_compare (Std.OrientedCmp.isLE_antisymm h h')

theorem place_perm (name : String) (names : List String) :
    (place name names).Perm (name :: names) := by
  induction names with
  | nil => exact .refl _
  | cons first rest ih =>
    rw [place]
    split
    · exact .refl _
    · exact (ih.cons first).trans (.swap name first rest)

theorem sort_perm (names : List String) : (sort names).Perm names := by
  induction names with
  | nil => exact .refl _
  | cons name names ih => exact (place_perm name _).trans (ih.cons name)

theorem pairwise_place {name : String} {names : List String} (h : names.Pairwise (le · ·)) :
    (place name names).Pairwise (le · ·) := by
  induction h with
  | nil => exact List.pairwise_singleton _ _
  | @cons first rest hfirst hrest ih =>
    rw [place]
    split
    · rename_i hle
      refine .cons (fun n hn => ?_) (.cons hfirst hrest)
      rcases List.mem_cons.mp hn with rfl | hn
      · exact hle
      · exact le_trans hle (hfirst n hn)
    · rename_i hle
      refine .cons (fun n hn => ?_) ih
      rcases List.mem_cons.mp ((place_perm name rest).mem_iff.mp hn) with rfl | hn
      · exact (le_total first n).resolve_right hle
      · exact hfirst n hn

theorem pairwise_sort (names : List String) : (sort names).Pairwise (le · ·) := by
  induction names with
  | nil => exact .nil
  | cons name names ih => exact pairwise_place ih

/-- The order of names leaves no choice in sorting. -/
theorem sort_eq_of_perm {l l' : List String} (h : l.Perm l') : sort l = sort l' :=
  List.Perm.eq_of_pairwise (fun _ _ _ _ => le_antisymm) (pairwise_sort l) (pairwise_sort l')
    (((sort_perm l).trans h).trans (sort_perm l').symm)

end Name

namespace FormName

variable {s : String} {f : FormName} {part : NamePart}

/-- A part of a form name can stand before a point and before a colon. -/
theorem checkPart_separators (h : checkPart part s = .ok ()) :
    '.' ∉ s.toList ∧ ':' ∉ s.toList := by
  unfold checkPart at h
  split at h
  · cases h
  · split at h
    · cases h
    · rename_i hf
      have hall := List.find?_eq_none.mp hf
      exact ⟨fun hm => by simpa using hall _ hm, fun hm => by simpa using hall _ hm⟩

theorem checkPart_unblank (h : checkPart part s = .ok ()) :
    s ≠ "" ∧ ∀ c ∈ s.toList, Text.isBlank c = false := by
  unfold checkPart at h
  split at h
  · cases h
  · rename_i hne
    split at h
    · cases h
    · rename_i hf
      have hall := List.find?_eq_none.mp hf
      refine ⟨by simpa [String.isEmpty_iff] using hne, fun c hc => ?_⟩
      have := hall c hc
      simp only [Bool.or_eq_true, not_or, Bool.not_eq_true] at this
      exact this.2

theorem checkPart_eq_error {e : TaxError} (h : checkPart part s = .error e) :
    ∃ fault, e = .invalidName s fault := by
  unfold checkPart at h
  split at h
  · exact ⟨_, (Except.error.inj h).symm⟩
  · split at h
    · exact ⟨_, (Except.error.inj h).symm⟩
    · cases h

theorem make_eq_error {name : String} {tag : Option String} {e : TaxError}
    (h : make name tag = .error e) : ∃ n fault, e = .invalidName n fault := by
  cases hn : checkPart .form name with
  | error e' =>
    simp only [make, hn, bind, Except.bind, Except.error.injEq] at h
    exact ⟨name, checkPart_eq_error (h ▸ hn)⟩
  | ok u =>
    cases tag with
    | none => simp [make, hn, bind, Except.bind, pure, Except.pure] at h
    | some t =>
      cases ht : checkPart .tag t with
      | ok u => simp [make, hn, ht, bind, Except.bind, pure, Except.pure] at h
      | error e' =>
        simp only [make, hn, ht, bind, Except.bind, Except.error.injEq] at h
        exact ⟨t, checkPart_eq_error (h ▸ ht)⟩

theorem parse_eq_error {e : TaxError} (h : parse s = .error e) :
    ∃ n fault, e = .invalidName n fault := by
  unfold parse at h
  split at h <;> exact make_eq_error h

theorem make_eq_ok {name : String} {tag : Option String} (h : make name tag = .ok f) :
    f = ⟨name, tag⟩ ∧ checkPart .form name = .ok () ∧
      ∀ t, tag = some t → checkPart .tag t = .ok () := by
  cases hn : checkPart .form name with
  | error e => simp [make, hn, bind, Except.bind] at h
  | ok u =>
    cases tag with
    | none =>
      simp only [make, hn, bind, Except.bind, pure, Except.pure, Except.ok.injEq] at h
      exact ⟨h.symm, rfl, by simp⟩
    | some t =>
      cases ht : checkPart .tag t with
      | error e => simp [make, hn, ht, bind, Except.bind] at h
      | ok u =>
        simp only [make, hn, ht, bind, Except.bind, pure, Except.pure, Except.ok.injEq] at h
        exact ⟨h.symm, rfl, by simp [ht]⟩

theorem text_of_parse (h : parse s = .ok f) : f.text = s := by
  unfold parse at h
  split at h
  · rename_i name tag hc
    obtain ⟨rfl, -, -⟩ := make_eq_ok h
    simp only [Text.cut, Option.map_eq_some_iff, Prod.exists, Prod.mk.injEq] at hc
    obtain ⟨a, b, hc, rfl, rfl⟩ := hc
    apply String.toList_injective
    simp [text, (Text.cutChars_eq_some hc).1]
  · obtain ⟨rfl, -, -⟩ := make_eq_ok h
    rfl

theorem eq_of_parse_untagged (hc : ':' ∉ s.toList) (h : parse s = .ok f) : f = ⟨s, none⟩ := by
  unfold parse at h
  split at h
  · rename_i name tag hcut
    simp only [Text.cut, Option.map_eq_some_iff, Prod.exists] at hcut
    obtain ⟨a, b, hcut, -⟩ := hcut
    exact absurd (by simp [(Text.cutChars_eq_some hcut).1]) hc
  · exact (make_eq_ok h).1

/-- A form name holds no point, so that a point can follow it. -/
theorem point_notMem_of_parse (h : parse s = .ok f) : '.' ∉ s.toList := by
  have ht := text_of_parse h
  unfold parse at h
  split at h
  · rename_i name tag hc
    obtain ⟨rfl, hn, hg⟩ := make_eq_ok h
    have hn := (checkPart_separators hn).1
    have hg := (checkPart_separators (hg tag rfl)).1
    rw [← ht]
    simp [text, hn, hg]
  · obtain ⟨rfl, hn, -⟩ := make_eq_ok h
    exact (checkPart_separators hn).1

/-- A form name is one word. -/
theorem unblank_of_make {name : String} {tag : Option String} (h : make name tag = .ok f) :
    f.text ≠ "" ∧ ∀ c ∈ f.text.toList, Text.isBlank c = false := by
  obtain ⟨rfl, hn, hg⟩ := make_eq_ok h
  obtain ⟨hne, hn⟩ := checkPart_unblank hn
  cases tag with
  | none => exact ⟨hne, hn⟩
  | some tag =>
    have hg := (checkPart_unblank (hg tag rfl)).2
    refine ⟨fun he => by simpa [text] using congrArg String.toList he, fun c hm => ?_⟩
    simp only [text, String.toList_append, List.mem_append] at hm
    rcases hm with (hm | hm) | hm
    · exact hn c hm
    · rw [show c = ':' by simpa using hm]
      decide
    · exact hg c hm

theorem unblank_of_parse (h : parse s = .ok f) :
    s ≠ "" ∧ ∀ c ∈ s.toList, Text.isBlank c = false := by
  have ht := text_of_parse h
  unfold parse at h
  split at h <;> exact ht ▸ unblank_of_make h

/-- What follows that point belongs to the form. -/
theorem split_of_parse {base : String} (h : parse s = .ok f) :
    Name.split (s ++ "." ++ base) = some (s, base) :=
  Name.split_scoped (point_notMem_of_parse h)

theorem split_qualify {base : String} (h : parse s = .ok f) :
    Name.split (f.qualify base) = some (s, base) := by
  rw [qualify, text_of_parse h]
  exact split_of_parse h

end FormName

theorem Form.checkTag_eq_error {form : Form} {tag : Option String} {e : TaxError}
    (h : form.checkTag tag = .error e) : ∃ fault, e = .invalidInstance form.name tag fault := by
  unfold checkTag at h
  split at h
  · exact ⟨_, (Except.error.inj h).symm⟩
  · split at h
    · cases h
    · exact ⟨_, (Except.error.inj h).symm⟩
  · exact ⟨_, (Except.error.inj h).symm⟩
  · cases h

namespace Library

variable {library : Library} {q : String} {name : FormName} {form : Form}

theorem instantiate_of_parse (hp : FormName.parse q = .ok name)
    (hf : library.form? name.name = some form) (hc : form.checkTag name.tag = .ok ()) :
    library.instantiate q = .ok (name, form) := by
  simp [instantiate, hp, hf, hc, bind, Except.bind, pure, Except.pure]

theorem instantiate_eq_ok (h : library.instantiate q = .ok (name, form)) :
    FormName.parse q = .ok name ∧ library.form? name.name = some form ∧
      form.checkTag name.tag = .ok () := by
  cases hp : FormName.parse q with
  | error e => simp [instantiate, hp, bind, Except.bind] at h
  | ok n =>
    cases hf : library.form? n.name with
    | none =>
      simp [instantiate, hp, hf, bind, Except.bind, throw, throwThe, MonadExceptOf.throw] at h
    | some f =>
      cases hc : f.checkTag n.tag with
      | error e => simp [instantiate, hp, hf, hc, bind, Except.bind] at h
      | ok u =>
        simp only [instantiate, hp, hf, hc, bind, Except.bind, pure, Except.pure, Except.ok.injEq,
          Prod.mk.injEq] at h
        obtain ⟨rfl, rfl⟩ := h
        exact ⟨rfl, hf, hc⟩

/-- Why there is no instance of a name: it is none, no form has it, or the form refuses the tag. -/
theorem instantiate_eq_error {e : TaxError} (h : library.instantiate q = .error e) :
    (∃ n fault, FormName.parse q = .error e ∧ e = .invalidName n fault) ∨
    ∃ name, FormName.parse q = .ok name ∧
      (library.form? name.name = none ∧ e = .unknownForm name.name ∨
        ∃ form fault, library.form? name.name = some form ∧ form.checkTag name.tag = .error e ∧
          e = .invalidInstance form.name name.tag fault) := by
  cases hp : FormName.parse q with
  | error e' =>
    simp only [instantiate, hp, bind, Except.bind, Except.error.injEq] at h
    subst h
    obtain ⟨n, fault, rfl⟩ := FormName.parse_eq_error hp
    exact .inl ⟨n, fault, rfl, rfl⟩
  | ok name =>
    refine .inr ⟨name, rfl, ?_⟩
    cases hf : library.form? name.name with
    | none =>
      simp only [instantiate, hp, hf, bind, Except.bind, throw, throwThe, MonadExceptOf.throw,
        Except.error.injEq] at h
      exact .inl ⟨rfl, h.symm⟩
    | some form =>
      cases hc : form.checkTag name.tag with
      | ok u => simp [instantiate, hp, hf, hc, bind, Except.bind, pure, Except.pure] at h
      | error e' =>
        simp only [instantiate, hp, hf, hc, bind, Except.bind, Except.error.injEq] at h
        subst h
        obtain ⟨fault, he⟩ := Form.checkTag_eq_error hc
        exact .inr ⟨form, fault, rfl, hc, he⟩

theorem text_of_instantiate (h : library.instantiate q = .ok (name, form)) : name.text = q :=
  FormName.text_of_parse (instantiate_eq_ok h).1

theorem split_of_instantiate {base : String} (h : library.instantiate q = .ok (name, form)) :
    Name.split (name.qualify base) = some (q, base) :=
  FormName.split_qualify (instantiate_eq_ok h).1

theorem mem_forms_of_instantiate (h : library.instantiate q = .ok (name, form)) :
    form ∈ library.forms :=
  List.mem_of_find?_eq_some (instantiate_eq_ok h).2.1

end Library

end TaxReturn
