import TaxReturn.Proofs.Correspondence
import TaxReturn.Proofs.Decimal.Bounds
import TaxReturn.Proofs.Typing

/-! What a computation may come to where the amounts that it reads are bounded: never an amount out
of range, and results within bounds of their own. The bounds are in whole dollars, and a line is in
dollars and cents. -/
namespace TaxReturn

/-- The amounts among the values are in dollars and cents, and not more than their caps. -/
def ValueStore.Capped (cap : String → ℕ) (values : ValueStore) : Prop :=
  ∀ f v d, values.get? f = some v → v.asDecimal? = some d → d.IsCents (cap f)

/-- An outcome is not an amount out of range, and `Q` holds of a result. -/
def InRange {α : Type} (Q : α → Prop) : Except Signal α → Prop
  | .ok x => Q x
  | .error e => ∀ what, e ≠ .fatal (.overflow what)

/-- A computation comes to outcomes in range. -/
abbrev Compute.Stays {α : Type} (a : Scope) (c : Compute α) (Q : α → Prop) : Prop := InRange Q (c a)

/-- The amount that a value is, if it is one, is bounded. -/
def Value.AtMost (k : ℕ) (v : Value) : Prop := ∀ d, v.asDecimal? = some d → d.AtMost k

/-- A value as it is kept: an amount among them is in dollars and cents too. -/
def Value.Kept (k : ℕ) (v : Value) : Prop := ∀ d, v.asDecimal? = some d → d.IsCents k

variable {α β : Type} {library : Library} {form : Form} {a : Scope} {Q : α → Prop} {R : β → Prop}
  {c c' : Compute α} {f : α → Compute β} {key what q base n name : String} {cap : String → ℕ}
  {j k most : ℕ} {x y total : Decimal}

theorem Value.atMost_number : (Value.number x).AtMost k ↔ x.AtMost k := by
  simp [Value.AtMost, Value.asDecimal?]

namespace Compute

theorem stays_pure {z : α} (h : Q z) : Stays a (pure z) Q := h

theorem Stays.mono {Q' : α → Prop} (h : c.Stays a Q) (hQ : ∀ z, Q z → Q' z) : c.Stays a Q' := by
  unfold Stays at h ⊢
  cases hc : c a with
  | ok z =>
    rw [hc] at h
    exact hQ z h
  | error e =>
    rw [hc] at h
    exact h

theorem Stays.bind (hc : c.Stays a Q) (hf : ∀ z, Q z → (f z).Stays a R) :
    (c >>= f).Stays a R := by
  unfold Stays at hc ⊢
  rw [bind_apply]
  cases h : c a with
  | ok z =>
    rw [h] at hc
    exact hf z hc
  | error e =>
    rw [h] at hc
    exact hc

theorem Stays.map {g : α → β} (hc : c.Stays a Q) (hg : ∀ z, Q z → R (g z)) :
    Stays a (do return g (← c)) R :=
  hc.bind fun z hz => stays_pure (hg z hz)

theorem Stays.ite {P : Prop} [Decidable P] (hc : c.Stays a Q) (hc' : c'.Stays a Q) :
    Stays a (if P then c else c') Q := by
  split
  · exact hc
  · exact hc'

theorem stays_unsupported {m : String} : Stays a (unsupported m : Compute α) Q := nofun

theorem stays_orOverflow {z : Option Decimal} {Q : Decimal → Prop}
    (h : ∃ d, z = some d ∧ Q d) : (orOverflow what z).Stays a Q := by
  obtain ⟨d, rfl, hd⟩ := h
  exact hd

/-- A read value that is turned into another type. -/
theorem Stays.typed {get : String → Compute Value} {expected : String} {as? : Value → Option α}
    {P : Value → Prop} (h : (get key).Stays a P) (has : ∀ v z, P v → as? v = some z → Q z) :
    (Compute.typed get expected as? key).Stays a Q := by
  refine h.bind fun v hv => ?_
  cases hz : as? v with
  | none => exact nofun
  | some z => exact has v z hv hz

theorem stays_input : (input key).Stays a fun _ => True := by
  unfold Stays input InputStore.parse
  split
  · exact nofun
  · split
    · exact nofun
    · split
      · exact trivial
      · exact nofun

/-- An input that is asked for as an amount is read as one. -/
theorem exists_amount_of_input {v : Value} (ha : a.Fits library form)
    (h : form.asks (· == .float) key) (hv : input key a = .ok v) :
    ∃ d, v = .number d ∧ d.IsAmount := by
  obtain ⟨spec, hspec, hfloat⟩ := ha.exists_spec h
  obtain ⟨spec', raw, hspec', -, hparse⟩ := InputStore.parse_eq_ok.mp hv
  cases hspec.symm.trans hspec'
  have hholds := InputSpec.holds_of_parse hparse
  rw [beq_iff_eq.mp hfloat] at hholds
  cases v <;> cases hholds
  exact ⟨_, rfl, InputSpec.isAmount_of_parse hparse⟩

theorem stays_amount (ha : a.Fits library form) (h : form.asks (· == .float) key) :
    (input key).Stays a fun v => v.AtMost Decimal.maxAmount := by
  have hstays := @stays_input a key
  unfold Stays at hstays ⊢
  cases hv : input key a with
  | ok v =>
    obtain ⟨d, rfl, hd⟩ := exists_amount_of_input ha h hv
    exact Value.atMost_number.mpr hd.atMost
  | error e =>
    rw [hv] at hstays
    exact hstays

theorem stays_value (hv : a.values.Capped cap) :
    (value key).Stays a fun v => v.Kept (cap (a.qualify key)) := by
  unfold Stays value ValueView.get ValueStore.get
  split
  · rename_i v hget
    exact fun d hd => hv _ v d hget hd
  · exact nofun

theorem stays_line (hv : a.values.Capped cap) :
    (line key).Stays a fun d => d.IsCents (cap (a.qualify key)) :=
  (stays_value hv).typed fun _ d hk hd => hk d hd

theorem stays_plus (hx : x.AtMost j) (hy : y.AtMost k) (hlimit : j + k < Decimal.limit) :
    (plus what x y).Stays a fun d => d.AtMost (j + k) :=
  stays_orOverflow (hx.exists_add? hy hlimit)

theorem stays_minus (hx : x.AtMost j) (hy : y.AtMost k) (hlimit : j + k < Decimal.limit) :
    (minus what x y).Stays a fun d => d.AtMost (j + k) :=
  stays_orOverflow (hx.exists_sub? hy hlimit)

/-- A sum of lines is bounded by the sum of their bounds. -/
theorem stays_sumLines {lines : List String} {bound : String → ℕ} (ht : total.AtMost k)
    (hl : ∀ key ∈ lines, (line key).Stays a fun d => d.AtMost (bound key))
    (hlimit : k + (lines.map bound).sum < Decimal.limit) :
    (sumLines what total lines).Stays a fun d => d.AtMost (k + (lines.map bound).sum) := by
  induction lines generalizing total k with
  | nil => exact stays_pure ht
  | cons key rest ih =>
    simp only [List.map_cons, List.sum_cons, ← add_assoc] at hlimit ⊢
    refine (hl key List.mem_cons_self).bind fun amount hamount => ?_
    refine (stays_plus ht hamount (by omega)).bind fun t ht' => ?_
    exact ih ht' (fun key hk => hl key (List.mem_cons_of_mem _ hk)) hlimit

/-- A total over so many instances is bounded by so many times the bound on one of them. -/
theorem stays_sumInstances (hv : a.values.Capped cap)
    (hfew : (a.inputs.instances q).length ≤ most)
    (hcap : ∀ tag ∈ a.inputs.instances q, cap (q ++ ":" ++ tag ++ "." ++ base) ≤ k)
    (hlimit : most * k < Decimal.limit) :
    (sumInstances q base).Stays a fun d => d.AtMost (most * k) := by
  have hlines : ∀ key ∈ (a.inputs.instances q).map fun tag => q ++ ":" ++ tag ++ "." ++ base,
      (line key).Stays a fun d => d.AtMost k := by
    intro key hk
    obtain ⟨tag, ht, rfl⟩ := List.mem_map.mp hk
    refine (stays_line hv).mono fun d hd => ?_
    rw [qualify_instance] at hd
    exact hd.atMost.mono (hcap tag ht)
  have hsum : 0 + (((a.inputs.instances q).map fun tag => q ++ ":" ++ tag ++ "." ++ base).map
      fun _ => k).sum ≤ most * k := by
    rw [List.map_const', List.sum_replicate, smul_eq_mul, List.length_map, zero_add]
    exact Nat.mul_le_mul_right k hfew
  refine (stays_sumLines Decimal.atMost_zero hlines (hsum.trans_lt hlimit)).mono fun d hd => ?_
  exact hd.mono hsum

end Compute

/-- What is kept of an amount has its cents. -/
theorem ValueKind.kept_of_canonicalize {v w : Value} (h : (decimal 2).canonicalize v = .ok w)
    (hv : v.AtMost k) (hlimit : k * Decimal.tenTo 2 < Decimal.limit) : w.Kept k := by
  have hfix : ∀ d : Decimal, d.AtMost k → (Value.number (d.fixPlaces 2)).Kept k := by
    intro d hd e he
    cases he
    exact hd.isCents hlimit
  cases keeps_of_canonicalize h with
  | blank => exact hfix 0 (Decimal.atMost_zero.mono (Nat.zero_le k))
  | decimal hd => exact hfix _ (hv _ hd)

/-- A value of another kind is no amount. -/
theorem ValueKind.kept_of_holds {kind : ValueKind} {v : Value} (hk : kind.isAmount = false)
    (h : kind.holds v) : v.Kept k := by
  intro d hd
  cases v with
  | int | number =>
    cases kind with
    | integer | float | decimal => cases hk
    | _ => cases h
  | _ => cases hd

namespace Field

variable {field : Field}

theorem stays_money (hk : field.kind = .decimal 2) (h : field.compute.Stays a fun v => v.AtMost k)
    (hlimit : k * Decimal.tenTo 2 < Decimal.limit) :
    Compute.Stays a (field.evaluate n) fun v => v.Kept k := by
  refine h.bind fun v hv => ?_
  cases hw : field.kind.canonicalize v with
  | error found => simp [Compute.Stays, InRange]
  | ok w => exact ValueKind.kept_of_canonicalize (hk ▸ hw) hv hlimit

theorem stays_other (hk : field.kind.isAmount = false) (h : field.compute.Stays a fun _ => True) :
    Compute.Stays a (field.evaluate n) fun v => v.Kept k := by
  refine h.bind fun v _ => ?_
  cases hw : field.kind.canonicalize v with
  | error found => simp [Compute.Stays, InRange]
  | ok w => exact ValueKind.kept_of_holds hk (ValueKind.holds_of_canonicalize hw)

end Field
end TaxReturn
