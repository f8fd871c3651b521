import TaxReturn.Value.Kind

/-! Decimals that differ in the sign of zero alone. Arithmetic and comparison do not tell them
apart, except that the sign comes out again, where a zero is carried on, in another zero. -/
namespace TaxReturn

namespace Decimal

variable {P Q : Prop} {a a' b b' c : Decimal} {places : Nat}

/-- Two decimals are the same, or, if `P`, zeros with the same places. -/
inductive Alike (P : Prop) (a : Decimal) : Decimal → Prop
  | same : Alike P a a
  | zero {b : Decimal} (hp : P) (ha : a.magnitude = 0) (hb : b.magnitude = 0)
      (hs : b.scale = a.scale) : Alike P a b

/-- A zero that is printed with a minus. -/
def IsNegativeZero (a : Decimal) : Prop := a.negative ∧ a.magnitude = 0

theorem limit_pos : 0 < limit := by decide

theorem units_eq_zero (h : a.magnitude = 0) : a.units = 0 := by
  simp [units, h]

theorem natAbs_units (a : Decimal) : a.units.natAbs = a.magnitude := by
  unfold units
  split <;> simp

theorem isZero_iff : a.isZero ↔ a.magnitude = 0 := by
  simp [isZero]

/-- A zero stays one, and keeps its sign. -/
theorem fixPlaces_zero (h : a.magnitude = 0) (places : Nat) :
    (a.fixPlaces places).negative = a.negative ∧ (a.fixPlaces places).magnitude = 0 ∧
      (a.fixPlaces places).scale = if places ≤ a.scale then places else min places maxScale := by
  by_cases hle : a.scale ≤ places
  · have hround : a.round .toEven places = a := dif_pos hle
    rw [fixPlaces, hround, extend]
    by_cases hge : places ≤ a.scale
    · rw [if_pos hge, if_pos hge]
      exact ⟨rfl, h, by omega⟩
    · rw [if_neg hge, if_neg hge, if_pos h]
      exact ⟨rfl, h, rfl⟩
  · have hpos := tenTo_pos (a.scale - places)
    rw [if_pos (by omega), fixPlaces, round, dif_neg hle]
    simp [extend, h, roundDiv, hpos]

namespace Alike

theorem mono (h : Alike P a b) (hpq : P → Q) : Alike Q a b := by
  cases h with
  | same => exact .same
  | zero hp ha hb hs => exact .zero (hpq hp) ha hb hs

/-- Where zeros are not to be confused, decimals that are alike are the same. -/
theorem eq (h : Alike P a b) (hp : ¬ P) : b = a := by
  cases h with
  | same => rfl
  | zero h => exact absurd h hp

theorem units_eq (h : Alike P a b) : b.units = a.units := by
  cases h with
  | same => rfl
  | zero _ ha hb _ => rw [units_eq_zero ha, units_eq_zero hb]

theorem scale_eq (h : Alike P a b) : b.scale = a.scale := by
  cases h with
  | same => rfl
  | zero _ _ _ hs => exact hs

theorem isZero_eq (h : Alike P a b) : b.isZero = a.isZero := by
  cases h with
  | same => rfl
  | zero _ ha hb _ => simp [isZero, ha, hb]

/-- Decimals that are alike compare alike. -/
theorem order_eq (h : Alike P a a') (h' : Alike P b b') : order a' b' = order a b := by
  simp only [order, h.units_eq, h'.units_eq, h.scale_eq, h'.scale_eq]

theorem lt_iff (h : Alike P a a') (h' : Alike P b b') : a < b ↔ a' < b' := by
  change order a b = .lt ↔ order a' b' = .lt
  rw [order_eq h h']

theorem le_iff (h : Alike P a a') (h' : Alike P b b') : a ≤ b ↔ a' ≤ b' := by
  change (order a b).isLE ↔ (order a' b').isLE
  rw [order_eq h h']

theorem min (h : Alike P a a') (h' : Alike P b b') : Alike P (min a b) (min a' b') := by
  change Alike P (if b < a then b else a) (if b' < a' then b' else a')
  by_cases hlt : b < a
  · rw [if_pos hlt, if_pos ((lt_iff h' h).mp hlt)]
    exact h'
  · rw [if_neg hlt, if_neg (mt (lt_iff h' h).mpr hlt)]
    exact h

theorem nonNegative (h : Alike P a a') : Alike P a.nonNegative a'.nonNegative := by
  change Alike P (if a < 0 then 0 else a) (if a' < 0 then 0 else a')
  by_cases hlt : a < 0
  · rw [if_pos hlt, if_pos ((lt_iff h .same).mp hlt)]
    exact .same
  · rw [if_neg hlt, if_neg (mt (lt_iff h .same).mpr hlt)]
    exact h

theorem neg (h : Alike P a b) : Alike P (-a) (-b) := by
  cases h with
  | same => exact .same
  | zero hp ha hb hs => exact .zero hp ha hb hs

/-- A zero counts for nothing in a sum, whatever its sign. -/
theorem add? (h : Alike P a a') (h' : Alike P b b') (hc : a.add? b = some c) :
    ∃ c', a'.add? b' = some c' ∧ Alike P c c' := by
  cases h with
  | zero _ ha hb _ =>
    rw [Decimal.add?, if_pos (isZero_iff.mpr ha)] at hc
    cases hc
    exact ⟨b', by rw [Decimal.add?, if_pos (isZero_iff.mpr hb)], h'⟩
  | same =>
    cases h' with
    | same => exact ⟨c, hc, .same⟩
    | zero hp hb hb' hs =>
      rw [Decimal.add?] at hc ⊢
      by_cases ha : a.isZero
      · rw [if_pos ha] at hc ⊢
        cases hc
        exact ⟨b', rfl, .zero hp hb hb' hs⟩
      · rw [if_neg ha, if_pos (isZero_iff.mpr hb)] at hc
        cases hc
        exact ⟨a, by rw [if_neg ha, if_pos (isZero_iff.mpr hb')], .same⟩

theorem sub? (h : Alike P a a') (h' : Alike P b b') (hc : a.sub? b = some c) :
    ∃ c', a'.sub? b' = some c' ∧ Alike P c c' := by
  rw [Decimal.sub?] at hc ⊢
  rw [h'.isZero_eq, h.isZero_eq]
  by_cases hb : b.isZero
  · rw [if_pos hb] at hc ⊢
    cases hc
    refine ⟨_, rfl, ?_⟩
    split
    · exact h'
    · exact h
  · rw [if_neg hb] at hc ⊢
    exact h.add? h'.neg hc

theorem fixPlaces (h : Alike P a b) : Alike P (a.fixPlaces places) (b.fixPlaces places) := by
  cases h with
  | same => exact .same
  | zero hp ha hb hs =>
    obtain ⟨-, hma, hsa⟩ := fixPlaces_zero ha places
    obtain ⟨-, hmb, hsb⟩ := fixPlaces_zero hb places
    exact .zero hp hma hmb (by rw [hsa, hsb, hs])

end Alike

/-- A zero prints with its sign, and the same figures. -/
theorem text_fixPlaces_zero (h : a.magnitude = 0) :
    (a.fixPlaces 2).text = if a.negative then "-0.00" else "0.00" := by
  obtain ⟨hn, hm, hs⟩ := fixPlaces_zero h 2
  have hscale : (a.fixPlaces 2).scale = 2 := by
    rw [hs]
    split <;> rfl
  have hfix : a.fixPlaces 2 = ⟨a.negative, 0, 2, by decide⟩ := by
    generalize a.fixPlaces 2 = d at hn hm hscale
    cases d
    simp_all
  rw [hfix]
  cases a.negative <;> decide

end Decimal

namespace Value

/-- Two values are the same, or numbers that are alike. -/
inductive Alike (P : Prop) (v : Value) : Value → Prop
  | same : Alike P v v
  | number {d e : Decimal} (hv : v = .number d) (h : d.Alike P e) : Alike P v (.number e)

variable {P Q : Prop} {v w : Value} {kind : ValueKind}

namespace Alike

theorem mono (h : Alike P v w) (hpq : P → Q) : Alike Q v w := by
  cases h with
  | same => exact .same
  | number hv h => exact .number hv (h.mono hpq)

theorem eq (h : Alike P v w) (hp : ¬ P) : w = v := by
  cases h with
  | same => rfl
  | number hv h => rw [hv, h.eq hp]

theorem asDecimal? {d : Decimal} (h : Alike P v w) (hd : v.asDecimal? = some d) :
    ∃ e, w.asDecimal? = some e ∧ d.Alike P e := by
  cases h with
  | same => exact ⟨d, hd, .same⟩
  | number hv h =>
    subst hv
    cases hd
    exact ⟨_, rfl, h⟩

/-- Values that are alike are kept as values that are alike. -/
theorem canonicalize {v' : Value} (h : Alike P v w) (hk : kind.canonicalize v = .ok v') :
    ∃ w', kind.canonicalize w = .ok w' ∧ Alike P v' w' := by
  cases h with
  | same => exact ⟨v', hk, .same⟩
  | number hv h =>
    subst hv
    cases kind with
    | float =>
      cases hk
      exact ⟨_, rfl, .number rfl h⟩
    | decimal places =>
      cases hk
      exact ⟨_, rfl, .number rfl h.fixPlaces⟩
    | _ => cases hk

/-- What dollars and cents are printed as. -/
theorem encode (h : Alike P v w) : (ValueKind.decimal 2).encode w = (ValueKind.decimal 2).encode v ∨
    P ∧ (ValueKind.decimal 2).encode v ∈ ["0.00", "-0.00"] ∧
      (ValueKind.decimal 2).encode w ∈ ["0.00", "-0.00"] := by
  cases h with
  | same => exact .inl rfl
  | number hv h =>
    subst hv
    cases h with
    | same => exact .inl rfl
    | @zero e hp hd he hs =>
      have htext : ∀ d : Decimal, d.magnitude = 0 →
          (ValueKind.decimal 2).encode (.number d) ∈ ["0.00", "-0.00"] := by
        intro d hd
        rw [ValueKind.encode, Decimal.text_fixPlaces_zero hd]
        cases d.negative <;> simp
      exact .inr ⟨hp, htext _ hd, htext _ he⟩

end Alike

end Value

end TaxReturn
