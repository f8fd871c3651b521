import TaxReturn.Proofs.Carries
import TaxReturn.Proofs.Decimal.Totals
import Mathlib.Algebra.Order.Ring.Nat
import Mathlib.Data.List.Forall2

/-! Two returns whose instances of some forms go by other tags. A computation that comes to a result
in one of them comes to a corresponding result in the other one, as soon as all that it reads is
there. Only a total over the instances depends on the order of their tags, and only in the sign of
a zero. -/
namespace TaxReturn

/-- Which instances of two returns are each other's twins. -/
structure Correspondence where
  /-- The forms whose instances may go by other tags. -/
  forms : List String
  /-- The forms that take totals over these instances, directly or by way of others. -/
  singles : List String
  twins : String → String → Prop
  /-- Whether an amount in these instances is a negative zero. -/
  signed : Prop

namespace Correspondence

variable (C : Correspondence)

/-- Whether zeros in an instance may have different signs. -/
def Loose (q : String) : Prop := C.signed ∧ q ∈ C.singles

/-- Fields of twins under the same name. -/
def OnTwins (n n' : String) : Prop :=
  ∃ q q' base, C.twins q q' ∧ Name.split n = some (q, base) ∧ Name.split n' = some (q', base)

/-- An amount in an instance that totals are taken over: dollars and cents, and not more of them
than two inputs can add up to. -/
structure Counts (d : Decimal) : Prop where
  scale : d.scale = 2
  magnitude : d.magnitude ≤ 2 * (Decimal.maxAmount * Decimal.tenTo 2)
  signed : d.IsNegativeZero → C.signed

/-- More instances than this are not counted. -/
def mostInstances : ℕ := 1000000000

/-- A field of a form is evaluated over one return, where all that it reads may be there, and over
the other one, where so far only values are that correspond to values of the first. -/
structure Mirrors (form : Form) (a b : Scope) : Prop where
  twins : C.twins a.form b.form
  points : '.' ∉ a.form.toList ∧ '.' ∉ b.form.toList
  own : form.name ∈ C.singles → a.form ∈ C.singles
  /-- A form without instances to be renamed is its own twin. -/
  singles : ∀ q ∈ C.singles, C.twins q q ∧ ∀ other, InputStore.tagOf? other q = none
  inputs : ∀ key v, Name.split key = none → a.inputs.parse (a.qualify key) = .ok v →
    b.inputs.parse (b.qualify key) = .ok v
  values : ∀ {n n' q q' base v'}, C.twins q q' → Name.split n = some (q, base) →
    Name.split n' = some (q', base) → b.values.get? n' = some v' →
    ∃ v, a.values.get? n = some v ∧ v.Alike (C.Loose q) v'
  renamed : ∀ other ∈ C.forms, ∃ back : String → String,
    (∀ tag ∈ b.inputs.instances other,
      C.twins (other ++ ":" ++ back tag) (other ++ ":" ++ tag)) ∧
    ((b.inputs.instances other).map back).Perm (a.inputs.instances other)
  kept : ∀ other, other ∉ C.forms → b.inputs.instances other = a.inputs.instances other ∧
    ∀ tag ∈ a.inputs.instances other, C.twins (other ++ ":" ++ tag) (other ++ ":" ++ tag)
  few : ∀ other ∈ C.forms, (a.inputs.instances other).length ≤ mostInstances
  amounts : ∀ other ∈ C.forms, ∀ tag ∈ a.inputs.instances other, ∀ base v d,
    a.values.get? (other ++ ":" ++ tag ++ "." ++ base) = some v → v.asDecimal? = some d → C.Counts d

/-- A computation comes to a result in one scope. Then another one comes in another scope to a
result that `R` relates to it, or it stops at a field whose twin has its value. -/
def Reflects {α : Type} (a b : Scope) (c c' : Compute α) (R : α → α → Prop) : Prop :=
  ∀ x, c a = .ok x → (∃ y, c' b = .ok y ∧ R x y) ∨
    ∃ d d', C.OnTwins d d' ∧ a.values.has d ∧ c' b = .error (.unmet d')

/-- A field of a form has corresponding values in twins. -/
def Reflected (form : Form) (field : Field) : Prop :=
  ∀ a b, C.Mirrors form a b →
    C.Reflects a b field.compute field.compute fun v w => v.Alike (C.Loose a.form) w

end Correspondence

/-- Whether a key stands for a field of the form, or leads from a form that may take totals to
another one. -/
def Form.sees (singles : List String) (form : Form) (key : String) : Bool :=
  match Name.split key with
  | none => true
  | some (q, _) => decide (q ∈ singles) && decide (form.name ∈ singles)

open Correspondence Compute

variable {α β : Type} {C : Correspondence} {form : Form} {a b : Scope} {P : Prop}
  {c c' : Compute α} {R : α → α → Prop} {S : β → β → Prop} {key what q base : String}
  {total total' : Decimal} {keys keys' : List String}

namespace Correspondence.Reflects

theorem pure {x y : α} (h : R x y) : C.Reflects a b (pure x) (pure y) R := by
  rintro x ⟨⟩
  exact .inl ⟨y, rfl, h⟩

theorem mono {R' : α → α → Prop} (h : C.Reflects a b c c' R) (hr : ∀ x y, R x y → R' x y) :
    C.Reflects a b c c' R' := by
  intro x hx
  rcases h x hx with ⟨y, hy, hxy⟩ | hd
  · exact .inl ⟨y, hy, hr x y hxy⟩
  · exact .inr hd

theorem bind {k k' : α → Compute β} (h : C.Reflects a b c c' R)
    (hk : ∀ x y, R x y → C.Reflects a b (k x) (k' y) S) :
    C.Reflects a b (c >>= k) (c' >>= k') S := by
  intro z hz
  obtain ⟨x, hx, hz⟩ := bind_eq_ok.mp hz
  rcases h x hx with ⟨y, hy, hxy⟩ | ⟨d, d', hd, hv, hs⟩
  · rcases hk x y hxy z hz with ⟨w, hw, hzw⟩ | ⟨d, d', hd, hv, hs⟩
    · exact .inl ⟨w, bind_eq_ok.mpr ⟨y, hy, hw⟩, hzw⟩
    · refine .inr ⟨d, d', hd, hv, ?_⟩
      rw [bind_apply, hy]
      exact hs
  · exact .inr ⟨d, d', hd, hv, by rw [bind_apply, hs]⟩

theorem map {f g : α → β} (h : C.Reflects a b c c' R) (hf : ∀ x y, R x y → S (f x) (g y)) :
    C.Reflects a b (do return f (← c)) (do return g (← c')) S :=
  h.bind fun x y hxy => pure (hf x y hxy)

theorem ite {p p' : Prop} [Decidable p] [Decidable p'] {k k' : Compute α} (hp : p ↔ p')
    (h : C.Reflects a b c c' R) (h' : C.Reflects a b k k' R) :
    C.Reflects a b (if p then c else k) (if p' then c' else k') R := by
  by_cases hc : p
  · rw [if_pos hc, if_pos (hp.mp hc)]
    exact h
  · rw [if_neg hc, if_neg (mt hp.mpr hc)]
    exact h'

theorem unsupported {m : String} : C.Reflects a b (unsupported m) c' R := nofun

theorem orOverflow {x y : Option Decimal}
    (h : ∀ d, x = some d → ∃ e, y = some e ∧ d.Alike P e) :
    C.Reflects a b (orOverflow what x) (orOverflow what y) fun d e => d.Alike P e := by
  intro d hd
  cases x with
  | none => cases hd
  | some d' =>
    cases hd
    obtain ⟨e, rfl, hde⟩ := h d rfl
    exact .inl ⟨e, rfl, hde⟩

end Correspondence.Reflects

namespace Correspondence.Mirrors

variable (h : C.Mirrors form a b)

include h

/-- In an instance with a tag no zero has another sign. -/
theorem not_loose {other tag : String} (ht : tag ∈ a.inputs.instances other) :
    ¬ C.Loose (other ++ ":" ++ tag) := by
  rintro ⟨-, hm⟩
  obtain ⟨q, -, hq⟩ := InputStore.mem_instances.mp ht
  obtain ⟨rfl, -⟩ := InputStore.tagOf?_eq_some hq
  rw [(h.singles _ hm).2] at hq
  cases hq

theorem loose_iff (hf : form.name ∈ C.singles) : C.Loose a.form ↔ C.signed :=
  ⟨fun hl => hl.1, fun hs => ⟨hs, h.own hf⟩⟩

theorem input (hk : Name.split key = none) :
    C.Reflects a b (input key) (Compute.input key) Eq := by
  intro v hv
  exact .inl ⟨v, h.inputs key v hk hv, rfl⟩

/-- The value of a field, read by the names that it has in both returns. -/
theorem reflects_value {key key' q q' base : String} (ht : C.twins q q')
    (hs : Name.split (a.qualify key) = some (q, base))
    (hs' : Name.split (b.qualify key') = some (q', base)) :
    C.Reflects a b (value key) (value key') fun v w => v.Alike (C.Loose q) w := by
  intro v hv
  have hv : a.values.get? (a.qualify key) = some v := ValueStore.get_eq_ok.mp hv
  cases hv' : b.values.get? (b.qualify key') with
  | some w =>
    obtain ⟨u, hu, huw⟩ := h.values ht hs hs' hv'
    rw [hv] at hu
    cases hu
    exact .inl ⟨w, ValueStore.get_eq_ok.mpr hv', huw⟩
  | none =>
    refine .inr ⟨_, _, ⟨q, q', base, ht, hs, hs'⟩, by simp [ValueStore.has, hv], ?_⟩
    exact ValueStore.get_eq_unmet.mpr ⟨rfl, hv'⟩

theorem value (hk : form.sees C.singles key) :
    C.Reflects a b (value key) (Compute.value key) fun v w => v.Alike (C.Loose a.form) w := by
  unfold Form.sees at hk
  cases hs : Name.split key with
  | none =>
    have hq : ∀ x : Scope, '.' ∉ x.form.toList →
        Name.split (x.qualify key) = some (x.form, key) := by
      intro x hx
      rw [ValueView.qualify, Name.scopeTo_of_split_none hs]
      exact Name.split_scoped hx
    exact h.reflects_value h.twins (hq a h.points.1) (hq b h.points.2)
  | some p =>
    obtain ⟨q, base⟩ := p
    rw [hs] at hk
    simp only [Bool.and_eq_true, decide_eq_true_eq] at hk
    have hq : ∀ x : Scope, Name.split (x.qualify key) = some (q, base) := by
      intro x
      rw [ValueView.qualify, Name.scopeTo_of_split_some hs, hs]
    refine (h.reflects_value (h.singles q hk.1).1 (hq a) (hq b)).mono fun v w hvw => ?_
    exact hvw.mono fun hl => ⟨hl.1, h.own hk.2⟩

omit h in
theorem typed {get get' : String → Compute Value} {key' expected : String}
    {as? : Value → Option α} (hget : C.Reflects a b (get key) (get' key') fun v w => v.Alike P w)
    (has : ∀ v w x, v.Alike P w → as? v = some x → ∃ y, as? w = some y ∧ R x y) :
    C.Reflects a b (typed get expected as? key) (Compute.typed get' expected as? key') R := by
  refine hget.bind fun v w hvw x hx => ?_
  cases hv : as? v with
  | none =>
    rw [hv] at hx
    cases hx
  | some x' =>
    rw [hv] at hx
    cases hx
    obtain ⟨y, hy, hxy⟩ := has v w x hvw hv
    exact .inl ⟨y, by simp only [hy, Value.expect], hxy⟩

omit h in
/-- What only numbers can be confused in is the same for a reader of something else. -/
theorem eq_of_as? {as? : Value → Option α} (hnum : ∀ d, as? (.number d) = none)
    (v w : Value) (x : α)
    (hvw : v.Alike P w) (hx : as? v = some x) : ∃ y, as? w = some y ∧ x = y := by
  cases hvw with
  | same => exact ⟨x, hx, rfl⟩
  | number hv _ =>
    rw [hv, hnum] at hx
    cases hx

theorem copy (hk : Name.split key = none) :
    C.Reflects a b (Compute.input key) (Compute.input key) fun v w => v.Alike P w :=
  (h.input hk).mono fun _ _ he => he ▸ .same

theorem amount (hk : Name.split key = none) :
    C.Reflects a b (asDecimal Compute.input key) (asDecimal Compute.input key) fun d e => d = e :=
  typed (P := False) (h.copy hk) fun _ _ d hvw hd => by
    obtain ⟨e, he, hde⟩ := hvw.asDecimal? hd
    exact ⟨e, he, (hde.eq not_false).symm⟩

theorem flag (hk : Name.split key = none) :
    C.Reflects a b (asBool Compute.input key) (asBool Compute.input key) Eq :=
  typed (P := False) (h.copy hk) (eq_of_as? fun _ => rfl)

theorem number (hk : Name.split key = none) :
    C.Reflects a b (asInt Compute.input key) (asInt Compute.input key) Eq :=
  typed (P := False) (h.copy hk) (eq_of_as? fun _ => rfl)

theorem choice (hk : form.sees C.singles key) :
    C.Reflects a b (asChoice Compute.value key) (asChoice Compute.value key) Eq :=
  typed (h.value hk) (eq_of_as? fun _ => rfl)

theorem line (hk : form.sees C.singles key) :
    C.Reflects a b (line key) (Compute.line key) fun d e => d.Alike (C.Loose a.form) e :=
  typed (h.value hk) fun _ _ _ hvw => hvw.asDecimal?

end Correspondence.Mirrors

namespace Correspondence.Reflects

/-- A sum of lines reflects one of as many lines, if each line does. -/
theorem sumLines (hk : List.Forall₂ (fun key key' =>
      C.Reflects a b (line key) (line key') fun d e => d.Alike P e) keys keys')
    (ht : total.Alike P total') : C.Reflects a b (sumLines what total keys)
      (sumLines what total' keys') fun d e => d.Alike P e := by
  induction hk generalizing total total' with
  | nil => exact pure ht
  | cons hkey _ ih =>
    refine hkey.bind fun d e hde => ?_
    refine (orOverflow fun t hsum => ht.add? hde hsum).bind fun t t' ht' => ?_
    exact ih ht'

end Correspondence.Reflects

namespace Compute

/-- A sum of lines can be taken where all of them can be read. -/
theorem exists_of_sumLines {amount : Decimal} (h : sumLines what total keys a = .ok amount) :
    ∀ key ∈ keys, ∃ d, line key a = .ok d := by
  induction keys generalizing total with
  | nil => simp
  | cons key rest ih =>
    obtain ⟨d, hd, h⟩ := bind_eq_ok.mp h
    obtain ⟨t, -, h⟩ := bind_eq_ok.mp h
    exact List.forall_mem_cons.mpr ⟨⟨d, hd⟩, ih h⟩

/-- It is the sum of their amounts. -/
theorem sumLines_eq_ok {amount : Decimal} {g : String → Decimal}
    (h : ∀ key ∈ keys, line key a = .ok (g key)) :
    sumLines what total keys a = .ok amount ↔ Decimal.sum? total (keys.map g) = some amount := by
  induction keys generalizing total with
  | nil => simp [sumLines, Decimal.sum?, Pure.pure, ReaderT.pure, Except.pure]
  | cons key rest ih =>
    obtain ⟨hkey, hrest⟩ := List.forall_mem_cons.mp h
    rw [sumLines, bind_eq_ok, List.map_cons, Decimal.sum?, Option.bind_eq_some_iff]
    constructor
    · rintro ⟨d, hd, hsum⟩
      rw [hkey] at hd
      cases hd
      obtain ⟨t, ht, hsum⟩ := bind_eq_ok.mp hsum
      exact ⟨t, orOverflow_eq_ok.mp ht, (ih hrest).mp hsum⟩
    · rintro ⟨t, ht, hsum⟩
      exact ⟨_, hkey, bind_eq_ok.mpr ⟨t, orOverflow_eq_ok.mpr ht, (ih hrest).mpr hsum⟩⟩

/-- The order in which lines are summed shows in the sign of a zero alone. -/
theorem sumLines_perm {amount : Decimal} (hp : keys'.Perm keys)
    (hc : ∀ key ∈ keys, ∀ d, line key a = .ok d → C.Counts d)
    (hfew : keys.length ≤ mostInstances) (h : sumLines what 0 keys a = .ok amount) :
    ∃ amount', sumLines what 0 keys' a = .ok amount' ∧ amount.Alike C.signed amount' := by
  -- The lines have been read, so that their order matters to the sum of the amounts alone.
  choose! g hg using exists_of_sumLines h
  have hcount : ∀ d ∈ keys.map g, C.Counts d := by
    intro d hd
    obtain ⟨key, hk, rfl⟩ := List.mem_map.mp hd
    exact hc key hk _ (hg key hk)
  have hroom : ((keys.map g).map Decimal.magnitude).sum < Decimal.limit := by
    have hsum : ((keys.map g).map Decimal.magnitude).sum ≤
        ((keys.map g).map Decimal.magnitude).length •
          (2 * (Decimal.maxAmount * Decimal.tenTo 2)) := by
      apply List.sum_le_card_nsmul
      intro n hn
      obtain ⟨d, hd, rfl⟩ := List.mem_map.mp hn
      exact (hcount d hd).magnitude
    rw [List.length_map, List.length_map, Nat.nsmul_eq_mul] at hsum
    have hlimit : mostInstances * (2 * (Decimal.maxAmount * Decimal.tenTo 2)) < Decimal.limit := by
      decide
    exact (hsum.trans (Nat.mul_le_mul_right _ hfew)).trans_lt hlimit
  obtain ⟨d, d', hd, hd', halike⟩ := Decimal.sum?_perm (hp.map g)
    (fun d hd => (hcount d hd).scale) hroom fun d hd => (hcount d hd).signed
  rw [sumLines_eq_ok hg, hd] at h
  cases h
  refine ⟨d', (sumLines_eq_ok fun key hk => hg key (hp.mem_iff.mp hk)).mpr hd', halike⟩

end Compute

namespace Correspondence.Mirrors

variable (h : C.Mirrors form a b)

include h

/-- The line of an instance is the same as that of its twin. -/
theorem counted {other tag tag' : String} (ht : tag ∈ a.inputs.instances other)
    (ht' : tag' ∈ b.inputs.instances other)
    (htwins : C.twins (other ++ ":" ++ tag) (other ++ ":" ++ tag')) :
    C.Reflects a b (Compute.line (other ++ ":" ++ tag ++ "." ++ base))
      (Compute.line (other ++ ":" ++ tag' ++ "." ++ base)) fun d e => d.Alike False e := by
  have hsplit : ∀ {x : Scope} {tag}, tag ∈ x.inputs.instances other →
      Name.split (x.qualify (other ++ ":" ++ tag ++ "." ++ base)) =
        some (other ++ ":" ++ tag, base) := by
    intro x tag hm
    obtain ⟨q, -, hq⟩ := InputStore.mem_instances.mp hm
    obtain ⟨rfl, hp⟩ := InputStore.tagOf?_eq_some hq
    rw [qualify_instance]
    exact FormName.split_of_parse hp
  have hvalue := h.reflects_value htwins (hsplit ht) (hsplit ht')
  refine typed (hvalue.mono fun v w hvw => hvw.mono fun hl => h.not_loose ht hl) ?_
  exact fun _ _ _ hvw => hvw.asDecimal?

/-- What can be read on a line of an instance is an amount that counts. -/
theorem counts {other tag : String} {d : Decimal} (hf : other ∈ C.forms)
    (ht : tag ∈ a.inputs.instances other)
    (hd : Compute.line (other ++ ":" ++ tag ++ "." ++ base) a = .ok d) : C.Counts d := by
  obtain ⟨v, hv, hd⟩ := bind_eq_ok.mp hd
  have hv := ValueStore.get_eq_ok.mp hv
  rw [qualify_instance] at hv
  cases hv' : v.asDecimal? with
  | none =>
    simp only [hv'] at hd
    cases hd
  | some d' =>
    simp only [hv'] at hd
    cases hd
    exact h.amounts other hf tag ht base v d hv hv'

/-- The total over instances that go by other tags comes to the same, except for the sign of a
zero. -/
theorem renamedTotal {other : String} (hf : other ∈ C.forms) :
    C.Reflects a b (sumInstances other base) (sumInstances other base)
      fun d e => d.Alike C.signed e := by
  obtain ⟨back, htwins, hperm⟩ := h.renamed other hf
  let name (tag : String) : String := other ++ ":" ++ tag ++ "." ++ base
  intro d hd
  have hd : sumLines (other ++ "." ++ base ++ " total") 0
      ((a.inputs.instances other).map name) a = .ok d := hd
  have hcounts : ∀ key ∈ (a.inputs.instances other).map name, ∀ d,
      Compute.line key a = .ok d → C.Counts d := by
    intro key hk d hd
    obtain ⟨tag, ht, rfl⟩ := List.mem_map.mp hk
    exact h.counts hf ht hd
  have hfew : ((a.inputs.instances other).map name).length ≤ mostInstances := by
    simpa using h.few other hf
  -- First the original is summed in the order of the other tags, then line by line with the twin.
  obtain ⟨e, he, hde⟩ := sumLines_perm (hperm.map name) hcounts hfew hd
  have hlines : List.Forall₂ (fun key key' =>
      C.Reflects a b (Compute.line key) (Compute.line key') fun d e => d.Alike False e)
      (((b.inputs.instances other).map back).map name)
      ((b.inputs.instances other).map name) := by
    rw [List.map_map, List.forall₂_map_left_iff, List.forall₂_map_right_iff, List.forall₂_same]
    intro tag ht
    exact h.counted (hperm.mem_iff.mp (List.mem_map_of_mem ht)) ht (htwins tag ht)
  rcases Reflects.sumLines hlines .same e he with ⟨e', he', hee⟩ | hstop
  · exact .inl ⟨e', he', hee.eq not_false ▸ hde⟩
  · exact .inr hstop

/-- The total over instances that keep their tags is the same. -/
theorem keptTotal {other : String} (hf : other ∉ C.forms) :
    C.Reflects a b (sumInstances other base) (sumInstances other base)
      fun d e => d.Alike False e := by
  obtain ⟨htags, htwins⟩ := h.kept other hf
  have hlines : List.Forall₂ (fun key key' =>
      C.Reflects a b (Compute.line key) (Compute.line key') fun d e => d.Alike False e)
      ((a.inputs.instances other).map fun tag => other ++ ":" ++ tag ++ "." ++ base)
      ((b.inputs.instances other).map fun tag => other ++ ":" ++ tag ++ "." ++ base) := by
    rw [htags, List.forall₂_map_left_iff, List.forall₂_map_right_iff, List.forall₂_same]
    exact fun tag ht => h.counted ht (htags ▸ ht) (htwins tag ht)
  exact Reflects.sumLines hlines .same

theorem totals {other : String} (hf : form.name ∈ C.singles) :
    C.Reflects a b (sumInstances other base) (sumInstances other base)
      fun d e => d.Alike (C.Loose a.form) e := by
  by_cases ho : other ∈ C.forms
  · exact (h.renamedTotal ho).mono fun d e hde => hde.mono (h.loose_iff hf).mpr
  · exact (h.keptTotal ho).mono fun d e hde => hde.mono False.elim

end Correspondence.Mirrors

namespace Line

variable {name detail minuend subtrahend source : String} {kind : ValueKind}
  {lines : List String} {amount : Compute Decimal} {field : Field}

theorem reflects_difference (h : C.Mirrors form a b) (hm : form.sees C.singles minuend)
    (hs : form.sees C.singles subtrahend) :
    C.Reflects a b (difference what minuend subtrahend) (difference what minuend subtrahend)
      fun d e => d.Alike (C.Loose a.form) e := by
  refine (h.line hm).bind fun d e hde => ?_
  refine (h.line hs).bind fun d' e' hde' => ?_
  exact .orOverflow fun _ hsub => hde.sub? hde' hsub

theorem reflected_money (h : ∀ a b, C.Mirrors form a b →
      C.Reflects a b amount amount fun d e => d.Alike (C.Loose a.form) e) :
    C.Reflected form (money name amount) :=
  fun a b hab => (h a b hab).map fun _ _ hde => .number rfl hde

theorem reflected_echo (hk : Name.split key = none) : C.Reflected form (echo name kind key) :=
  fun _ _ hab => hab.copy hk

theorem reflected_carry (hk : form.sees C.singles source) : C.Reflected form (carry name source) :=
  fun _ _ hab => hab.value hk

theorem reflected_totalOf (hf : form.name ∈ C.singles) :
    C.Reflected form (totalOf name q base) :=
  reflected_money fun _ _ hab => hab.totals hf

theorem reflected_sumOf (hk : ∀ key ∈ lines, form.sees C.singles key) :
    C.Reflected form (sumOf name lines) :=
  reflected_money fun _ _ hab =>
    .sumLines (List.forall₂_same.mpr fun key hm => hab.line (hk key hm)) .same

theorem reflected_mustBeNo (hk : Name.split key = none) :
    C.Reflected form (mustBeNo name key detail) := by
  intro a b hab
  refine (hab.flag hk).bind fun x y hxy => ?_
  subst hxy
  exact Reflects.ite Iff.rfl .unsupported (.pure .same)

end Line

/-- What is committed corresponds as well. -/
theorem Correspondence.Reflected.evaluate {field : Field} {n n' : String}
    (hf : C.Reflected form field) (h : C.Mirrors form a b) :
    C.Reflects a b (field.evaluate n) (field.evaluate n')
      fun v w => v.Alike (C.Loose a.form) w := by
  refine (hf a b h).bind fun v w hvw x hx => ?_
  cases hk : field.kind.canonicalize v with
  | error m =>
    rw [hk] at hx
    cases hx
  | ok v' =>
    rw [hk] at hx
    cases hx
    obtain ⟨w', hw', halike⟩ := hvw.canonicalize hk
    exact .inl ⟨w', by rw [hw'], halike⟩

end TaxReturn
