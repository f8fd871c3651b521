import TaxReturn.Proofs.Reads
import TaxReturn.Proofs.Solver.Registry

/-! Inputs that come to be given. A computation whose inputs are known comes to the same outcome
when more is given and committed, unless it had stopped at something that is there now; but the
instances of the forms over which it takes totals have to stay the same. -/
namespace TaxReturn

variable {α : Type} {a b c : InputStore} {V W : ValueStore} {n q base : String}
  {fixed : List String} {spec : InputSpec} {library : Library}

/-- What is given in one store is given in another one, and certain forms have the same
instances. -/
structure InputStore.Carries (fixed : List String) (a b : InputStore) : Prop where
  raw : ∀ n v, a.raw? n = some v → b.raw? n = some v
  names : ∀ q ∈ a.given.names, q ∈ b.given.names
  instances : ∀ form ∈ fixed, b.instances form = a.instances form

/-- The inputs of a form instance can be read as its library says. -/
def InputStore.Knows (library : Library) (a : InputStore) (q : String) : Prop :=
  ∀ n base spec, Name.split n = some (q, base) → library.inputSpec? n = some spec →
    a.spec? n = some spec

theorem Solver.Registered.knows {known : Name.Table InputSpec} {s : Solver}
    (h : s.Registered library known) (hq : q ∈ s.forms) : s.inputs.Knows library q := by
  intro n base spec hs hn
  rw [InputStore.spec?, h.spec, (h.inputSpec n spec).mpr ⟨⟨q, base, hs, hq⟩, hn⟩]
  rfl

namespace InputStore

theorem Carries.refl : a.Carries fixed a := ⟨fun _ _ h => h, fun _ h => h, fun _ _ => rfl⟩

theorem Carries.trans (h : a.Carries fixed b) (h' : b.Carries fixed c) : a.Carries fixed c :=
  ⟨fun n v hv => h'.raw n v (h.raw n v hv), fun q hq => h'.names q (h.names q hq),
    fun form hf => (h'.instances form hf).trans (h.instances form hf)⟩

theorem carries_of_given (h : b.given = a.given) : a.Carries fixed b := by
  refine ⟨fun n v hv => ?_, fun q hq => h ▸ hq, fun form _ => ?_⟩
  · simpa only [raw?, h] using hv
  · simp only [instances, h]

theorem Carries.mem_instances (h : a.Carries fixed b) {form tag : String}
    (ht : tag ∈ a.instances form) : tag ∈ b.instances form := by
  obtain ⟨q, hq, htag⟩ := InputStore.mem_instances.mp ht
  exact InputStore.mem_instances.mpr ⟨q, h.names q hq, htag⟩

/-- What is given in a section that is there, or that is an instance of none of the forms, leaves
the instances as they are. -/
theorem carries_give {new : Bool} {raw key : String} (h : a.give n raw = .ok (new, b))
    (hs : Name.split n = some (q, key))
    (hq : ∀ form ∈ fixed, q ∈ a.given.names ∨ tagOf? form q = none) : a.Carries fixed b where
  raw m v hv := by
    rw [raw?_give h]
    split
    · rename_i hn
      rw [hn.1, hn.2] at hv
      cases hv
    · exact hv
  names _ hm := mem_names_give h hm
  instances form hf := instances_give h hs (hq form hf)

/-- An input that can be read in the same way is read with the same result, unless it was given
meanwhile. -/
theorem parse_carries (h : a.Carries fixed b) (ha : a.spec? n = some spec)
    (hb : b.spec? n = some spec) :
    b.parse n = a.parse n ∨ a.parse n = .error (.missingInput n) ∧ b.has n := by
  cases hr : a.raw? n with
  | some v =>
    left
    simp [parse, ha, hb, hr, h.raw n v hr]
  | none =>
    have hp : a.parse n = .error (.missingInput n) := by simp [parse, ha, hr]
    cases hr' : b.raw? n with
    | some v => exact .inr ⟨hp, by simp [InputStore.has, hr']⟩
    | none =>
      left
      rw [hp]
      simp [parse, hb, hr']

end InputStore

/-- An evaluation stopped at something that is there by now. -/
inductive Overtaken (b : InputStore) (W : ValueStore) : Except Signal α → Prop
  | value {d : String} (h : W.has d) : Overtaken b W (.error (.unmet d))
  | input {n : String} (h : b.has n) : Overtaken b W (.error (.missingInput n))

namespace Compute

variable {c : Compute α} {r : Reads} {x y : Scope}

theorem Heeds.carries (h : c.Heeds r) (hform : y.form = x.form)
    (hknown : ∀ key ∈ r.inputs, ∃ spec, x.inputs.spec? (x.qualify key) = some spec ∧
      y.inputs.spec? (x.qualify key) = some spec)
    (hc : x.inputs.Carries fixed y.inputs) (ht : ∀ t ∈ r.totals, t.1 ∈ fixed)
    (hv : x.values ≤ y.values) : c y = c x ∨ Overtaken y.inputs y.values (c x) := by
  have hfollows : r.Follows x y := by
    refine ⟨hform, fun key hk v hp => ?_, fun t h => hc.instances t.1 (ht t h), hv⟩
    obtain ⟨spec, hx, hy⟩ := hknown key hk
    rcases InputStore.parse_carries hc hx hy with he | ⟨he, -⟩
    · exact he.trans hp
    · rw [he] at hp
      cases hp
  refine (h.steady x y hfollows).imp_right fun hs => ?_
  generalize c x = o at hs
  cases hs with
  | line hd => exact .value hd
  | @input key e hk hx hy =>
    obtain ⟨spec, hsx, hsy⟩ := hknown key hk
    rcases InputStore.parse_carries hc hsx hsy with he | ⟨he, hn⟩
    · exact absurd (he.trans hx) hy
    · rw [he] at hx
      cases hx
      exact .input hn

end Compute

/-- To make a value canonical reads nothing. -/
theorem Field.heeds_evaluate {field : Field} {name : String} {r : Reads}
    (h : field.compute.Heeds r) : Compute.Heeds (field.evaluate name) r := by
  rw [← Compute.join_empty (r := r)]
  refine h.bind fun v => ?_
  cases field.kind.canonicalize v with
  | ok value => exact Compute.heeds_pure
  | error found => exact Compute.heeds_fail

namespace Form

variable {form : Form} {name : FormName} {key : String}

/-- An input that a form has can be read in its instances. -/
theorem exists_inputAs? (h : ∃ input ∈ form.inputs, input.name = key) :
    ∃ spec, form.inputAs? name (name.qualify key) = some spec := by
  obtain ⟨input, hm, rfl⟩ := h
  have hc : name.qualify input.name ∈
      (∅ : Name.Table InputSpec).insertMany (form.inputsAs name) := by
    rw [Std.ExtTreeMap.mem_insertMany_list]
    right
    rw [List.contains_iff_mem, inputsAs, List.map_map]
    exact List.mem_map_of_mem (f := fun input : InputSpec => name.qualify input.name) hm
  rw [Std.ExtTreeMap.mem_iff_isSome_getElem?] at hc
  exact Option.isSome_iff_exists.mp hc

end Form

end TaxReturn
