import TaxReturn.Proofs.Stores
import TaxReturn.Form

/-! A computation that reads values only by looking them up comes to the same outcome when more is
known, except that a value it stopped at may have been committed meanwhile. -/
namespace TaxReturn

/-- Every value of one store stands in another one. -/
instance : LE ValueStore := ⟨fun a b => ∀ f v, a.get? f = some v → b.get? f = some v⟩

namespace ValueStore

variable {a b c : ValueStore} {name : String} {value : Value}

theorem le_refl (a : ValueStore) : a ≤ a := fun _ _ h => h

theorem le_trans (h : a ≤ b) (h' : b ≤ c) : a ≤ c := fun f v hf => h' f v (h f v hf)

theorem le_commit (h : a.has name = false) : a ≤ a.commit name value := by
  intro f v hf
  rw [get?_commit]
  split
  · rename_i he
    subst he
    simp [has, hf] at h
  · exact hf

theorem commit_le (h : a ≤ b) (hn : b.get? name = some value) (ha : a.has name = false) :
    a.commit name value ≤ b := by
  intro f v hf
  rw [get?_commit] at hf
  split at hf
  · rename_i he
    subst he
    have hnone : a.get? f = none := by simpa [has] using ha
    rw [hnone] at hf
    cases hf
    exact hn
  · exact h f v hf

theorem ext_get? (h : ∀ f, a.get? f = b.get? f) : a = b := by
  cases a
  cases b
  congr
  exact Std.ExtTreeMap.ext_getElem? fun {k} => h k

theorem le_antisymm (h : a ≤ b) (h' : b ≤ a) : a = b := by
  apply ext_get?
  intro f
  cases ha : a.get? f with
  | some v => exact (h f v ha).symm
  | none =>
    cases hb : b.get? f with
    | none => rfl
    | some v => rw [h' f v hb] at ha; cases ha

end ValueStore

/-- Every descriptor of one store stands in another one, and the same inputs are given. -/
structure InputStore.Within (a b : InputStore) : Prop where
  given : b.given = a.given
  specs : ∀ n spec, a.spec? n = some spec → b.spec? n = some spec

theorem InputStore.Within.refl (a : InputStore) : a.Within a := ⟨rfl, fun _ _ h => h⟩

theorem InputStore.Within.trans {a b c : InputStore} (h : a.Within b) (h' : b.Within c) :
    a.Within c :=
  ⟨h'.given.trans h.given, fun n spec hn => h'.specs n spec (h.specs n spec hn)⟩

/-- What can be read in one scope can be read in another one of the same form. -/
structure Scope.Within (a b : Scope) : Prop where
  form : b.form = a.form
  values : a.values ≤ b.values
  inputs : a.inputs.Within b.inputs

/-- The outcomes that are kept in a larger scope. A value that is missing is one that the scope does
not have, and it is what is missing until it is committed. An error leaves everything open. -/
structure Compute.Stable {α : Type} (c : Compute α) : Prop where
  value : ∀ a b v, a.Within b → c a = .ok v → c b = .ok v
  missingInput : ∀ a b n, a.Within b → c a = .error (.missingInput n) →
    c b = .error (.missingInput n)
  notImplemented : ∀ a b d, a.Within b → c a = .error (.notImplemented d) →
    c b = .error (.notImplemented d)
  unmet : ∀ a b d, a.Within b → c a = .error (.unmet d) → b.values.get? d = none →
    c b = .error (.unmet d)
  absent : ∀ a d, c a = .error (.unmet d) → a.values.get? d = none

/-- All the value functions of a library are stable. -/
def Library.Stable (library : Library) : Prop :=
  ∀ form ∈ library.forms, ∀ field ∈ form.fields, field.compute.Stable

/-- An input that a computation lacks is one that is not given. -/
def Compute.LacksAbsent {α : Type} (c : Compute α) : Prop :=
  ∀ a n, c a = .error (.missingInput n) → a.inputs.has n = false

/-- All that the value functions of a library lack is not given. -/
def Library.LacksAbsent (library : Library) : Prop :=
  ∀ form ∈ library.forms, ∀ field ∈ form.fields, field.compute.LacksAbsent

namespace Field

variable {field : Field} {name : String} {scope : Scope}

theorem evaluate_eq_ok {v : Value} : field.evaluate name scope = .ok v ↔
    ∃ w, field.compute scope = .ok w ∧ field.kind.canonicalize w = .ok v := by
  unfold evaluate
  cases hc : field.compute scope with
  | error e => simp [bind, Except.bind]
  | ok w =>
    simp only [bind, Except.bind, Except.ok.injEq, exists_eq_left']
    cases hk : field.kind.canonicalize w <;> simp

/-- What stops an evaluation, but for an error, stopped the computation. -/
theorem evaluate_eq_error {signal : Signal} (hs : ∀ e, signal ≠ .fatal e) :
    field.evaluate name scope = .error signal ↔ field.compute scope = .error signal := by
  unfold evaluate
  cases hc : field.compute scope with
  | error e => simp [bind, Except.bind]
  | ok w =>
    simp only [bind, Except.bind, reduceCtorEq, iff_false]
    cases hk : field.kind.canonicalize w with
    | ok v => simp
    | error k =>
      simp only [Except.error.injEq]
      exact fun he => hs _ he.symm

theorem stable_evaluate (h : field.compute.Stable) :
    Compute.Stable (α := Value) (field.evaluate name) where
  value a b v hab ha := by
    obtain ⟨w, hw, hk⟩ := evaluate_eq_ok.mp ha
    exact evaluate_eq_ok.mpr ⟨w, h.value a b w hab hw, hk⟩
  missingInput a b n hab ha := by
    rw [evaluate_eq_error (by simp)] at ha ⊢
    exact h.missingInput a b n hab ha
  notImplemented a b d hab ha := by
    rw [evaluate_eq_error (by simp)] at ha ⊢
    exact h.notImplemented a b d hab ha
  unmet a b d hab ha hd := by
    rw [evaluate_eq_error (by simp)] at ha ⊢
    exact h.unmet a b d hab ha hd
  absent a d ha := by
    rw [evaluate_eq_error (by simp)] at ha
    exact h.absent a d ha

end Field

namespace Library

variable {library : Library} {inputs inputs' : InputStore} {values values' : ValueStore}
  {f : String} {outcome outcome' : Except Signal Value}

/-- What the evaluation of a field comes to over given stores. -/
def Evaluates (library : Library) (inputs : InputStore) (values : ValueStore) (f : String)
    (outcome : Except Signal Value) : Prop :=
  ∃ q base name form field, Name.split f = some (q, base) ∧
    library.instantiate q = .ok (name, form) ∧ form.field? base = some field ∧
    field.evaluate f ⟨⟨q, values⟩, inputs⟩ = outcome

theorem Evaluates.unique (h : library.Evaluates inputs values f outcome)
    (h' : library.Evaluates inputs values f outcome') : outcome = outcome' := by
  obtain ⟨q, base, name, form, field, hs, hi, hb, he⟩ := h
  obtain ⟨q', base', name', form', field', hs', hi', hb', he'⟩ := h'
  rw [hs] at hs'
  cases hs'
  rw [hi] at hi'
  cases hi'
  rw [hb] at hb'
  cases hb'
  exact he.symm.trans he'

/-- An evaluation of a field is one by the form that its name stands for. -/
theorem evaluates_iff {q base : String} {name : FormName} {form : Form} {field : Field}
    (hs : Name.split f = some (q, base)) (hi : library.instantiate q = .ok (name, form))
    (hb : form.field? base = some field) :
    library.Evaluates inputs values f outcome ↔
      field.evaluate f ⟨⟨q, values⟩, inputs⟩ = outcome := by
  constructor
  · intro h
    exact Evaluates.unique ⟨q, base, name, form, field, hs, hi, hb, rfl⟩ h
  · intro h
    exact ⟨q, base, name, form, field, hs, hi, hb, h⟩

theorem Evaluates.lacks {n : String} (hlacks : library.LacksAbsent)
    (h : library.Evaluates inputs values f (.error (.missingInput n))) :
    inputs.has n = false := by
  obtain ⟨q, base, name, form, field, -, hi, hb, he⟩ := h
  have hfield : field ∈ form.fields := List.mem_of_find?_eq_some hb
  rw [Field.evaluate_eq_error (by simp)] at he
  exact hlacks form (mem_forms_of_instantiate hi) field hfield _ n he

/-- The evaluations of a field are those of one stable function. -/
theorem Stable.exists_evaluation (hstable : library.Stable)
    (h : library.Evaluates inputs values f outcome) :
    ∃ (q : String) (c : Compute Value), c.Stable ∧
      ∀ inputs values outcome, library.Evaluates inputs values f outcome ↔
        c ⟨⟨q, values⟩, inputs⟩ = outcome := by
  obtain ⟨q, base, name, form, field, hs, hi, hb, he⟩ := h
  have hfield : field ∈ form.fields := List.mem_of_find?_eq_some hb
  exact ⟨q, field.evaluate f,
    Field.stable_evaluate (hstable form (mem_forms_of_instantiate hi) field hfield),
    fun _ _ _ => evaluates_iff hs hi hb⟩

variable (hstable : library.Stable) (hin : inputs.Within inputs') (hval : values ≤ values')

include hstable hin hval

theorem Evaluates.value {v : Value} (h : library.Evaluates inputs values f (.ok v)) :
    library.Evaluates inputs' values' f (.ok v) := by
  obtain ⟨q, c, hc, he⟩ := hstable.exists_evaluation h
  have hw : Scope.Within ⟨⟨q, values⟩, inputs⟩ ⟨⟨q, values'⟩, inputs'⟩ := ⟨rfl, hval, hin⟩
  exact (he _ _ _).mpr (hc.value _ _ v hw ((he _ _ _).mp h))

theorem Evaluates.missingInput {n : String}
    (h : library.Evaluates inputs values f (.error (.missingInput n))) :
    library.Evaluates inputs' values' f (.error (.missingInput n)) := by
  obtain ⟨q, c, hc, he⟩ := hstable.exists_evaluation h
  have hw : Scope.Within ⟨⟨q, values⟩, inputs⟩ ⟨⟨q, values'⟩, inputs'⟩ := ⟨rfl, hval, hin⟩
  exact (he _ _ _).mpr (hc.missingInput _ _ n hw ((he _ _ _).mp h))

theorem Evaluates.notImplemented {d : Option String}
    (h : library.Evaluates inputs values f (.error (.notImplemented d))) :
    library.Evaluates inputs' values' f (.error (.notImplemented d)) := by
  obtain ⟨q, c, hc, he⟩ := hstable.exists_evaluation h
  have hw : Scope.Within ⟨⟨q, values⟩, inputs⟩ ⟨⟨q, values'⟩, inputs'⟩ := ⟨rfl, hval, hin⟩
  exact (he _ _ _).mpr (hc.notImplemented _ _ d hw ((he _ _ _).mp h))

theorem Evaluates.unmet {d : String}
    (h : library.Evaluates inputs values f (.error (.unmet d))) (hd : values'.get? d = none) :
    library.Evaluates inputs' values' f (.error (.unmet d)) := by
  obtain ⟨q, c, hc, he⟩ := hstable.exists_evaluation h
  have hw : Scope.Within ⟨⟨q, values⟩, inputs⟩ ⟨⟨q, values'⟩, inputs'⟩ := ⟨rfl, hval, hin⟩
  exact (he _ _ _).mpr (hc.unmet _ _ d hw ((he _ _ _).mp h) hd)

omit hin hval in
theorem Evaluates.absent {d : String}
    (h : library.Evaluates inputs values f (.error (.unmet d))) : values.get? d = none := by
  obtain ⟨q, c, hc, he⟩ := hstable.exists_evaluation h
  exact hc.absent _ d ((he _ _ _).mp h)

end Library
end TaxReturn
