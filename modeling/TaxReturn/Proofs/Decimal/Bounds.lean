import TaxReturn.Proofs.Decimal.Totals

/-! How large the results of the operations get. A bound counts whole units, so no rounding goes
past it, and as long as it is below the limit there is a result. -/
namespace TaxReturn.Decimal

variable {a b c : Decimal} {j k n d places scale : ℕ} {negative : Bool} {tie : Tie}

/-- The amount is not more than `k`, in magnitude. -/
def AtMost (k : ℕ) (a : Decimal) : Prop := a.magnitude ≤ k * tenTo a.scale

theorem IsAmount.atMost (h : a.IsAmount) : a.AtMost maxAmount := h

theorem AtMost.mono (h : a.AtMost j) (hk : j ≤ k) : a.AtMost k :=
  h.trans (Nat.mul_le_mul_right _ hk)

theorem atMost_ofNat (h : n < limit) : (ofNat n h).AtMost n := (Nat.mul_one n).ge

theorem atMost_zero : (0 : Decimal).AtMost 0 := le_rfl

theorem AtMost.neg (h : a.AtMost k) : (-a).AtMost k := h

theorem AtMost.abs (h : a.AtMost k) : a.abs.AtMost k := h

theorem AtMost.min (ha : a.AtMost k) (hb : b.AtMost k) : (min a b).AtMost k := by
  change (if b < a then b else a).AtMost k
  split
  · exact hb
  · exact ha

theorem AtMost.nonNegative (h : a.AtMost k) : a.nonNegative.AtMost k := by
  change (if a < 0 then 0 else a).AtMost k
  split
  · exact atMost_zero.mono (Nat.zero_le k)
  · exact h

/-- The units of an amount in places that it has room for. -/
theorem AtMost.natAbs_units_le (h : a.AtMost k) (hs : a.scale ≤ scale) :
    (a.units * tenTo (scale - a.scale)).natAbs ≤ k * tenTo scale := by
  rw [Int.natAbs_mul, natAbs_units, Int.natAbs_natCast]
  calc a.magnitude * tenTo (scale - a.scale)
      ≤ k * tenTo a.scale * tenTo (scale - a.scale) := Nat.mul_le_mul_right _ h
    _ = k * tenTo scale := by rw [mul_assoc, ← tenTo_add, Nat.add_sub_cancel' hs]

theorem AtMost.magnitude_mul_lt (h : a.AtMost k) (hs : a.scale ≤ scale)
    (hlimit : k * tenTo scale < limit) : a.magnitude * tenTo (scale - a.scale) < limit := by
  have hle := h.natAbs_units_le hs
  rw [Int.natAbs_mul, natAbs_units, Int.natAbs_natCast] at hle
  exact hle.trans_lt hlimit

theorem exists_fit (hk : k < limit) (hd : 0 < d) (h : n ≤ k * tenTo places * d) :
    ∃ c, fit negative n d places = some c ∧ c.AtMost k := by
  induction places generalizing d with
  | zero =>
    have hm : roundDiv .toEven n d ≤ k := roundDiv_le_of_le_mul hd (by simpa [tenTo] using h)
    have hroom : roundDiv .toEven n d < limit := hm.trans_lt hk
    exact ⟨⟨negative, _, 0, hroom⟩, by simp [fit, hroom], by simpa [AtMost, tenTo] using hm⟩
  | succ places ih =>
    by_cases hroom : roundDiv .toEven n d < limit
    · have hm : roundDiv .toEven n d ≤ k * tenTo (places + 1) := roundDiv_le_of_le_mul hd h
      exact ⟨⟨negative, _, places + 1, hroom⟩, by simp [fit, hroom], hm⟩
    -- One place less is left, and the divisor grows by it.
    · have h' : n ≤ k * tenTo places * (10 * d) := by
        rw [tenTo_succ] at h
        linarith only [h]
      obtain ⟨c, hc, hb⟩ := ih (by omega) h'
      exact ⟨c, by simp [fit, hroom, hc], hb⟩

theorem exists_fitPlaces (hk : k < limit) (h : n ≤ k * tenTo scale) :
    ∃ c, fitPlaces negative n scale = some c ∧ c.AtMost k := by
  refine exists_fit hk (tenTo_pos _) ?_
  have hs : min scale maxScale + (scale - maxScale) = scale := by omega
  rwa [mul_assoc, ← tenTo_add, hs]

theorem AtMost.exists_add? (ha : a.AtMost j) (hb : b.AtMost k) (hlimit : j + k < limit) :
    ∃ c, a.add? b = some c ∧ c.AtMost (j + k) := by
  by_cases hza : a.isZero
  · exact ⟨b, by rw [add?, if_pos hza], hb.mono (Nat.le_add_left k j)⟩
  by_cases hzb : b.isZero
  · exact ⟨a, by rw [add?, if_neg hza, if_pos hzb], ha.mono (Nat.le_add_right j k)⟩
  -- Both operands are brought to the larger number of places.
  have hsum : (a.units * tenTo (max a.scale b.scale - a.scale) +
      b.units * tenTo (max a.scale b.scale - b.scale)).natAbs ≤
        (j + k) * tenTo (max a.scale b.scale) := by
    have hua := ha.natAbs_units_le (le_max_left a.scale b.scale)
    have hub := hb.natAbs_units_le (le_max_right a.scale b.scale)
    rw [add_mul]
    exact (Int.natAbs_add_le _ _).trans (add_le_add hua hub)
  rw [add?, if_neg hza, if_neg hzb]
  dsimp only
  split
  · exact exists_fit hlimit Nat.one_pos (by rwa [mul_one])
  · exact exists_fitPlaces hlimit hsum

theorem AtMost.exists_sub? (ha : a.AtMost j) (hb : b.AtMost k) (hlimit : j + k < limit) :
    ∃ c, a.sub? b = some c ∧ c.AtMost (j + k) := by
  unfold sub?
  split
  · refine ⟨_, rfl, ?_⟩
    split
    · exact hb.mono (Nat.le_add_left k j)
    · exact ha.mono (Nat.le_add_right j k)
  · exact ha.exists_add? hb.neg hlimit

theorem AtMost.exists_mul? (ha : a.AtMost j) (hb : b.AtMost k) (hlimit : j * k < limit) :
    ∃ c, a.mul? b = some c ∧ c.AtMost (j * k) := by
  have hproduct : a.magnitude * b.magnitude ≤ j * k * tenTo (a.scale + b.scale) := by
    rw [tenTo_add, mul_mul_mul_comm]
    exact Nat.mul_le_mul ha hb
  obtain ⟨c, hc, hbound⟩ :=
    @exists_fitPlaces _ _ _ (a.negative != b.negative) hlimit hproduct
  unfold mul?
  dsimp only
  split
  · exact ⟨0, rfl, atMost_zero.mono (Nat.zero_le _)⟩
  · have hsigned : (if c.isZero then c.abs else c).AtMost (j * k) := by
      split
      · exact hbound.abs
      · exact hbound
    rw [hc]
    split
    · exact ⟨_, rfl, hsigned⟩
    · exact ⟨c, rfl, hbound⟩

/-- Dividing by one or more does not make an amount larger. -/
theorem AtMost.exists_div? (ha : a.AtMost k) (hb : tenTo b.scale ≤ b.magnitude)
    (hlimit : k < limit) : ∃ c, a.div? b = some c ∧ c.AtMost k := by
  have hpos : 0 < b.magnitude := (tenTo_pos _).trans_le hb
  have hz : ¬ b.isZero := by
    rw [isZero_iff]
    omega
  rw [div?, if_neg hz]
  split
  · exact ⟨0, rfl, atMost_zero.mono (Nat.zero_le k)⟩
  · refine exists_fit hlimit (Nat.mul_pos hpos (tenTo_pos _)) ?_
    calc a.magnitude * tenTo (b.scale + maxScale)
        ≤ k * tenTo a.scale * (b.magnitude * tenTo maxScale) := by
          rw [tenTo_add]
          exact Nat.mul_le_mul ha (Nat.mul_le_mul_right _ hb)
      _ = k * tenTo maxScale * (b.magnitude * tenTo a.scale) := by ring

theorem AtMost.exists_floor? (h : a.AtMost k) (hlimit : k < limit) :
    ∃ c, a.floor? = some c ∧ c.AtMost k := by
  have hpos : (0 : ℤ) < tenTo a.scale := by exact_mod_cast tenTo_pos a.scale
  have hunits : |a.units| ≤ (k : ℤ) * tenTo a.scale := by
    rw [Int.abs_eq_natAbs, natAbs_units]
    exact_mod_cast h
  obtain ⟨hlow, hhigh⟩ := abs_le.mp hunits
  have hfloor : (a.units.fdiv (tenTo a.scale)).natAbs ≤ k := by
    rw [Int.fdiv_eq_ediv_of_nonneg _ hpos.le]
    have h₁ : -(k : ℤ) ≤ a.units / tenTo a.scale :=
      (Int.le_ediv_iff_mul_le hpos).mpr (by linarith only [hlow])
    have h₂ : a.units / tenTo a.scale ≤ k := Int.ediv_le_of_le_mul hpos hhigh
    omega
  have hroom : (a.units.fdiv (tenTo a.scale)).natAbs < limit := hfloor.trans_lt hlimit
  refine ⟨⟨decide (a.units.fdiv (tenTo a.scale) < 0), _, 0, hroom⟩, ?_, ?_⟩
  · simp [floor?, hroom]
  · simpa [AtMost, tenTo] using hfloor

theorem scale_round_le (a : Decimal) (tie : Tie) (places : ℕ) :
    (a.round tie places).scale ≤ places := by
  unfold Decimal.round
  split
  · assumption
  · exact le_rfl

theorem AtMost.round (h : a.AtMost k) (places : ℕ) : (a.round tie places).AtMost k := by
  unfold Decimal.round
  split
  · exact h
  · rename_i hlt
    refine roundDiv_le_of_le_mul (tenTo_pos _) ?_
    have hs : places + (a.scale - places) = a.scale := by omega
    rwa [mul_assoc, ← tenTo_add, hs]

/-- An amount that stays in range in so many places gets exactly these places. -/
theorem AtMost.fixPlaces (h : a.AtMost k) (hp : places ≤ maxScale)
    (hlimit : k * tenTo places < limit) :
    (a.fixPlaces places).scale = places ∧ (a.fixPlaces places).AtMost k := by
  have hr : (a.round .toEven places).AtMost k := h.round places
  have hs := a.scale_round_le .toEven places
  rw [Decimal.fixPlaces]
  generalize a.round .toEven places = r at hr hs
  rw [extend]
  split
  · exact ⟨by omega, hr⟩
  split
  · rename_i hz
    exact ⟨by simp [hp], by simp [AtMost, hz]⟩
  · obtain ⟨hps, hpu⟩ := pad_eq (hr.magnitude_mul_lt hs hlimit)
    have hscale : (r.pad (places - r.scale)).scale = places := by omega
    refine ⟨hscale, ?_⟩
    rw [AtMost, hscale, ← natAbs_units, hpu]
    exact hr.natAbs_units_le hs

/-- An amount of dollars and cents, not more than `k` dollars. -/
structure IsCents (k : ℕ) (a : Decimal) : Prop where
  scale : a.scale = 2
  atMost : a.AtMost k

theorem tenTo_two : tenTo 2 = 100 := rfl

theorem IsCents.magnitude_le (h : a.IsCents k) : a.magnitude ≤ k * 100 := by
  have := h.atMost
  rwa [AtMost, h.scale, tenTo_two] at this

theorem IsCents.mono (h : a.IsCents j) (hk : j ≤ k) : a.IsCents k := ⟨h.scale, h.atMost.mono hk⟩

theorem IsCents.neg (h : a.IsCents k) : (-a).IsCents k := ⟨h.scale, h.atMost.neg⟩

theorem AtMost.isCents (h : a.AtMost k) (hlimit : k * tenTo 2 < limit) :
    (a.fixPlaces 2).IsCents k := by
  obtain ⟨hs, hb⟩ := h.fixPlaces (by decide) hlimit
  exact ⟨hs, hb⟩

/-- An amount in dollars and cents is not larger than the bound on what is read. -/
theorem fixPlaces_two (h : a.IsAmount) :
    (a.fixPlaces 2).scale = 2 ∧ (a.fixPlaces 2).magnitude ≤ maxAmount * tenTo 2 := by
  have hcents := h.atMost.isCents (by decide)
  exact ⟨hcents.scale, hcents.magnitude_le⟩

end TaxReturn.Decimal
