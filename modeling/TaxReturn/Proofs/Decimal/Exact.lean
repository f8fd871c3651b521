import TaxReturn.Proofs.Decimal.Rational

/-! Operations that round nothing away. A result that has few enough places comes out exactly,
however many zeros its operands carry: giving up places stops before it costs a figure. -/
namespace TaxReturn

/-- The number has no figure behind the given number of places. -/
def WithinPlaces (places : ℕ) (x : ℚ) : Prop := ∃ n : ℤ, x * Decimal.tenTo places = n

namespace WithinPlaces

open Decimal

variable {j k : ℕ} {x y : ℚ}

theorem mono (h : WithinPlaces j x) (hjk : j ≤ k) : WithinPlaces k x := by
  obtain ⟨n, hn⟩ := h
  refine ⟨n * tenTo (k - j), ?_⟩
  have hten : tenTo k = tenTo j * tenTo (k - j) := by rw [← tenTo_add, Nat.add_sub_cancel' hjk]
  rw [hten]
  push_cast
  rw [← hn]
  ring

theorem intCast (n : ℤ) : WithinPlaces j n := ⟨n * tenTo j, by push_cast; rfl⟩

theorem natCast (n : ℕ) : WithinPlaces j n := ⟨n * tenTo j, by push_cast; rfl⟩

theorem neg (h : WithinPlaces j x) : WithinPlaces j (-x) := by
  obtain ⟨n, hn⟩ := h
  exact ⟨-n, by push_cast; rw [neg_mul, hn]⟩

theorem abs (h : WithinPlaces j x) : WithinPlaces j |x| := by
  rcases abs_choice x with hx | hx <;> rw [hx]
  · exact h
  · exact h.neg

theorem add (hx : WithinPlaces j x) (hy : WithinPlaces j y) : WithinPlaces j (x + y) := by
  obtain ⟨m, hm⟩ := hx
  obtain ⟨n, hn⟩ := hy
  exact ⟨m + n, by push_cast; rw [add_mul, hm, hn]⟩

theorem sub (hx : WithinPlaces j x) (hy : WithinPlaces j y) : WithinPlaces j (x - y) := by
  rw [sub_eq_add_neg]
  exact hx.add hy.neg

theorem mul (hx : WithinPlaces j x) (hy : WithinPlaces k y) : WithinPlaces (j + k) (x * y) := by
  obtain ⟨m, hm⟩ := hx
  obtain ⟨n, hn⟩ := hy
  refine ⟨m * n, ?_⟩
  rw [tenTo_add]
  push_cast
  rw [← hm, ← hn]
  ring

/-- Dividing by a factor of a power of ten takes no more than its places. -/
theorem div (hx : WithinPlaces j x) {c d : ℕ} (hd : c * d = tenTo k) :
    WithinPlaces (j + k) (x / d) := by
  obtain ⟨n, hn⟩ := hx
  have hd0 : (d : ℚ) ≠ 0 := by
    intro h
    have := tenTo_pos k
    rw [← hd, Nat.cast_eq_zero.mp h] at this
    omega
  refine ⟨n * c, ?_⟩
  rw [tenTo_add, ← hd]
  push_cast
  rw [← hn]
  field_simp

theorem min (hx : WithinPlaces j x) (hy : WithinPlaces j y) : WithinPlaces j (min x y) := by
  rcases min_choice x y with h | h <;> rw [h]
  · exact hx
  · exact hy

theorem max (hx : WithinPlaces j x) (hy : WithinPlaces j y) : WithinPlaces j (max x y) := by
  rcases max_choice x y with h | h <;> rw [h]
  · exact hx
  · exact hy

end WithinPlaces

namespace Decimal

variable {a b c : Decimal} {j k m n d places scale : ℕ} {negative : Bool} {tie : Tie} {x : ℚ}

/-- There is room for four places of an amount that is not out of all proportion. -/
theorem room_of_le (hzero : 0 ≤ x) (h : x ≤ 10 ^ 24) : |x| * tenTo 4 < limit := by
  have hlimit : (10 : ℚ) ^ 24 * tenTo 4 < limit := by
    norm_num [tenTo, limit]
  rw [abs_of_nonneg hzero]
  exact (mul_le_mul_of_nonneg_right h (tenTo_cast_pos 4).le).trans_lt hlimit

theorem withinPlaces_toRat (a : Decimal) : WithinPlaces a.scale a.toRat :=
  ⟨a.units, div_mul_cancel₀ _ (tenTo_cast_pos _).ne'⟩

/-- A number with few places carries no more zeros than there is room for. -/
theorem scale_le_of_withinPlaces (h : WithinPlaces j a.toRat) (hz : a.magnitude ≠ 0) :
    a.scale ≤ j + maxScale := by
  obtain ⟨n, hn⟩ := h
  by_contra hlt
  have hten : tenTo a.scale = tenTo j * tenTo (a.scale - j) := by
    rw [← tenTo_add, Nat.add_sub_cancel' (by omega)]
  -- The units are a multiple of a power of ten that there is no room for.
  have hunits : a.units = n * tenTo (a.scale - j) := by
    have hcast : (a.units : ℚ) = n * tenTo (a.scale - j) := by
      rw [← hn, toRat, div_mul_eq_mul_div, div_mul_eq_mul_div, eq_div_iff (tenTo_cast_pos _).ne',
        hten]
      push_cast
      ring
    exact_mod_cast hcast
  have hmag : a.magnitude = n.natAbs * tenTo (a.scale - j) := by
    rw [← natAbs_units, hunits, Int.natAbs_mul, Int.natAbs_natCast]
  have hone : 1 ≤ n.natAbs := by
    rcases Nat.eq_zero_or_pos n.natAbs with h0 | h0
    · exact absurd (by rw [hmag, h0, Nat.zero_mul]) hz
    · exact h0
  have hbig : limit ≤ tenTo (a.scale - j) :=
    calc limit ≤ tenTo (maxScale + 1) := by decide
      _ ≤ tenTo (a.scale - j) := Nat.pow_le_pow_right (by decide) (by omega)
  have := a.magnitude_lt
  have : tenTo (a.scale - j) ≤ a.magnitude := hmag ▸ Nat.le_mul_of_pos_left _ hone
  omega

theorem abs_toRat (a : Decimal) : |a.toRat| = a.magnitude / tenTo a.scale := by
  have hnn : (0 : ℚ) ≤ a.magnitude / tenTo a.scale := by positivity
  rw [toRat_eq_ite]
  split
  · rw [abs_neg, abs_of_nonneg hnn]
  · exact abs_of_nonneg hnn

theorem toRat_eq_signed (a : Decimal) : a.toRat = if a.negative then -|a.toRat| else |a.toRat| := by
  rw [abs_toRat]
  exact toRat_eq_ite a

theorem toRat_ofNat (h : n < limit) : (ofNat n h).toRat = n := by
  rw [ofNat, toRat_mk]
  simp [tenTo]

theorem toRat_cents (h : n < limit) : (cents n h).toRat = n / 100 := by
  rw [cents, toRat_mk, tenTo_two]
  simp

theorem toRat_zero : (0 : Decimal).toRat = 0 := toRat_eq_zero rfl

theorem le_iff_toRat : a ≤ b ↔ a.toRat ≤ b.toRat := by
  have hlt : a ≤ b ↔ ¬ b < a := by rw [le_iff_units, lt_iff_units, not_lt]
  rw [hlt, lt_iff_toRat, not_lt]

theorem toRat_min (a b : Decimal) : (min a b).toRat = min a.toRat b.toRat := by
  change (if b < a then b else a).toRat = _
  split
  · rename_i h
    exact (min_eq_right (lt_iff_toRat.mp h).le).symm
  · rename_i h
    exact (min_eq_left (not_lt.mp (mt lt_iff_toRat.mpr h))).symm

/-- The quotient of a number by the unit of enough places. -/
theorem exists_quotient (hd : 0 < d) (hx : WithinPlaces j x) (hj : j ≤ places)
    (hn : (n : ℚ) = x * (d * tenTo places)) :
    ∃ m : ℕ, roundDiv .toEven n d = m ∧ (m : ℚ) = x * tenTo places := by
  have hd' : (0 : ℚ) < d := by exact_mod_cast hd
  have hcast : (n : ℚ) = x * tenTo places * d := by
    rw [hn]
    ring
  obtain ⟨z, hz⟩ := hx.mono hj
  have hz0 : 0 ≤ z := by
    have hnn : (0 : ℚ) ≤ z * d := hz ▸ hcast ▸ n.cast_nonneg
    exact_mod_cast nonneg_of_mul_nonneg_left hnn hd'
  obtain ⟨m, rfl⟩ := Int.eq_ofNat_of_zero_le hz0
  have hm : n = m * d := by
    rw [hz, Int.cast_natCast] at hcast
    exact_mod_cast hcast
  exact ⟨m, by rw [hm, roundDiv_mul m hd], by simpa using hz.symm⟩

/-- A number finds its room as soon as all its figures do, and then it has them all. -/
theorem exists_fit_eq (hd : 0 < d) (hx : WithinPlaces j x) (hj : j ≤ places)
    (hroom : x * tenTo j < limit) (hn : (n : ℚ) = x * (d * tenTo places)) :
    ∃ c, fit negative n d places = some c ∧ c.toRat = if negative then -x else x := by
  induction places generalizing d with
  | zero =>
    obtain ⟨m, hm, hmx⟩ := exists_quotient hd hx hj hn
    have hfit : m < limit := by
      obtain rfl : j = 0 := by omega
      exact_mod_cast hmx ▸ hroom
    refine ⟨⟨negative, m, 0, hfit⟩, by simp [fit, hm, hfit], ?_⟩
    rw [toRat_mk, hmx, mul_div_cancel_right₀ _ (tenTo_cast_pos 0).ne']
  | succ places ih =>
    obtain ⟨m, hm, hmx⟩ := exists_quotient hd hx hj hn
    by_cases hfit : m < limit
    · refine ⟨⟨negative, m, places + 1, hfit⟩, by simp [fit, hm, hfit], ?_⟩
      rw [toRat_mk, hmx, mul_div_cancel_right₀ _ (tenTo_cast_pos _).ne']
    -- There is no room yet, so there are places to give up that hold nothing but zeros.
    · have hj' : j ≤ places := by
        rcases Nat.lt_or_ge places j with hlt | hge
        · obtain rfl : j = places + 1 := by omega
          exact absurd (by exact_mod_cast hmx ▸ hroom) hfit
        · exact hge
      have hn' : (n : ℚ) = x * ((10 * d : ℕ) * tenTo places) := by
        rw [hn, tenTo_succ]
        push_cast
        ring
      obtain ⟨c, hc, hcx⟩ := ih (by omega) hj' hn'
      exact ⟨c, by simp [fit, hm, hfit, hc], hcx⟩

/-- Of units of a place no more places are needed than they have. -/
theorem exists_places (hx : WithinPlaces j x) (hroom : x * tenTo j < limit)
    (hn : (n : ℚ) = x * tenTo scale) :
    ∃ i, i ≤ j ∧ i ≤ scale ∧ WithinPlaces i x ∧ x * tenTo i < limit := by
  rcases Nat.le_total j scale with h | h
  · exact ⟨j, le_rfl, h, hx, hroom⟩
  · have hx0 : 0 ≤ x := by
      have hnn : 0 ≤ x * tenTo scale := hn ▸ n.cast_nonneg
      exact nonneg_of_mul_nonneg_left hnn (tenTo_cast_pos scale)
    refine ⟨scale, h, le_rfl, ⟨n, by rw [← hn, Int.cast_natCast]⟩, lt_of_le_of_lt ?_ hroom⟩
    refine mul_le_mul_of_nonneg_left ?_ hx0
    exact_mod_cast Nat.pow_le_pow_right (by decide) h

/-- The same under the places that there may be at most. -/
theorem exists_fitPlaces_eq (hx : WithinPlaces j x) (hj : j ≤ maxScale)
    (hroom : x * tenTo j < limit) (hn : (n : ℚ) = x * tenTo scale) :
    ∃ c, fitPlaces negative n scale = some c ∧ c.toRat = if negative then -x else x := by
  obtain ⟨i, hij, his, hxi, hi⟩ := exists_places hx hroom hn
  refine exists_fit_eq (tenTo_pos _) hxi (le_min his (hij.trans hj)) hi ?_
  have hten : scale - maxScale + min scale maxScale = scale := by omega
  rw [hn, ← Nat.cast_mul, ← tenTo_add, hten]

/-- Operands that are brought to the same places add up to the units of the sum. -/
theorem aligned_units (a b : Decimal) : ((a.units * tenTo (max a.scale b.scale - a.scale) +
    b.units * tenTo (max a.scale b.scale - b.scale) : ℤ) : ℚ) =
      (a.toRat + b.toRat) * tenTo (max a.scale b.scale) := by
  rw [add_mul, toRat_mul_tenTo (le_max_left _ _), toRat_mul_tenTo (le_max_right _ _)]
  push_cast
  rfl

/-- The sum is exact where it has few enough places. -/
theorem exists_add?_eq (hx : WithinPlaces j (a.toRat + b.toRat)) (hj : j ≤ maxScale)
    (hroom : |a.toRat + b.toRat| * tenTo j < limit) :
    ∃ c, a.add? b = some c ∧ c.toRat = a.toRat + b.toRat := by
  by_cases hza : a.isZero
  · exact ⟨b, by rw [add?, if_pos hza], by rw [toRat_eq_zero (isZero_iff.mp hza), zero_add]⟩
  by_cases hzb : b.isZero
  · exact ⟨a, by rw [add?, if_neg hza, if_pos hzb],
      by rw [toRat_eq_zero (isZero_iff.mp hzb), add_zero]⟩
  rw [add?, if_neg hza, if_neg hzb]
  dsimp only
  generalize hsum : a.units * tenTo (max a.scale b.scale - a.scale) +
    b.units * tenTo (max a.scale b.scale - b.scale) = sum
  have hvalue : (sum : ℚ) = (a.toRat + b.toRat) * tenTo (max a.scale b.scale) :=
    hsum ▸ aligned_units a b
  have hpos := tenTo_cast_pos (max a.scale b.scale)
  have habs : (sum.natAbs : ℚ) = |a.toRat + b.toRat| * tenTo (max a.scale b.scale) := by
    rw [Nat.cast_natAbs, Int.cast_abs, hvalue, abs_mul, abs_of_pos hpos]
  have hsign : (if decide (sum < 0) then -|a.toRat + b.toRat| else |a.toRat + b.toRat|) =
      a.toRat + b.toRat := by
    by_cases hneg : sum < 0
    · have hlt : a.toRat + b.toRat < 0 := by
        have hcast : (sum : ℚ) < 0 := by exact_mod_cast hneg
        rw [hvalue] at hcast
        exact neg_of_mul_neg_left hcast hpos.le
      rw [if_pos (by simpa using hneg), abs_of_neg hlt, neg_neg]
    · have hge : 0 ≤ a.toRat + b.toRat := by
        have hcast : (0 : ℚ) ≤ sum := by exact_mod_cast not_lt.mp hneg
        rw [hvalue] at hcast
        exact nonneg_of_mul_nonneg_left hcast hpos
      rw [if_neg (by simpa using hneg), abs_of_nonneg hge]
  rw [← hsign]
  split
  · obtain ⟨i, -, his, hxi, hi⟩ := exists_places hx.abs hroom habs
    exact exists_fit_eq Nat.one_pos hxi his hi (by rw [habs, Nat.cast_one, one_mul])
  · exact exists_fitPlaces_eq hx.abs hj hroom habs

/-- So is the difference. -/
theorem exists_sub?_eq (hx : WithinPlaces j (a.toRat - b.toRat)) (hj : j ≤ maxScale)
    (hroom : |a.toRat - b.toRat| * tenTo j < limit) :
    ∃ c, a.sub? b = some c ∧ c.toRat = a.toRat - b.toRat := by
  unfold sub?
  split
  · rename_i hzb
    have hb := toRat_eq_zero (isZero_iff.mp hzb)
    refine ⟨_, rfl, ?_⟩
    split
    · rename_i hza
      rw [hb, toRat_eq_zero (isZero_iff.mp hza), sub_zero]
    · rw [hb, sub_zero]
  · rw [sub_eq_add_neg, ← toRat_neg] at hx hroom ⊢
    exact exists_add?_eq hx hj hroom

theorem signed_mul {p q : Bool} {x y : ℚ} : (if (p != q) then -(x * y) else x * y) =
    (if p then -x else x) * (if q then -y else y) := by
  cases p <;> cases q <;> simp

/-- A product of numbers with few places is exact, however many zeros they carry. -/
theorem exists_mul?_eq (ha : WithinPlaces j a.toRat) (hb : WithinPlaces k b.toRat)
    (hjk : j + k ≤ maxScale) (hs : j + maxScale + b.scale ≤ negligibleScale)
    (hroom : |a.toRat| * |b.toRat| * tenTo (j + k) < limit) :
    ∃ c, a.mul? b = some c ∧ c.toRat = a.toRat * b.toRat := by
  unfold mul?
  dsimp only
  by_cases hz : a.isZero || b.isZero
  · rw [if_pos (by simp [hz])]
    refine ⟨0, rfl, ?_⟩
    rw [toRat_zero]
    rcases Bool.or_eq_true_iff.mp hz with hz | hz <;> simp [toRat_eq_zero (isZero_iff.mp hz)]
  · have hza : a.magnitude ≠ 0 := by
      intro h
      simp [isZero, h] at hz
    have hscale := scale_le_of_withinPlaces ha hza
    have hkept : ¬ (negligibleScale < a.scale + b.scale) := by omega
    have hx : WithinPlaces (j + k) (|a.toRat| * |b.toRat|) := ha.abs.mul hb.abs
    have hn : ((a.magnitude * b.magnitude : ℕ) : ℚ) =
        |a.toRat| * |b.toRat| * tenTo (a.scale + b.scale) := by
      rw [abs_toRat, abs_toRat, tenTo_add]
      have := (tenTo_cast_pos a.scale).ne'
      have := (tenTo_cast_pos b.scale).ne'
      push_cast
      field_simp
    obtain ⟨c, hc, hcx⟩ :=
      @exists_fitPlaces_eq _ _ _ (a.negative != b.negative) _ hx hjk hroom hn
    rw [signed_mul, ← toRat_eq_signed, ← toRat_eq_signed] at hcx
    have habs : (if c.isZero then c.abs else c).toRat = c.toRat := by
      split
      · rename_i hzc
        rw [toRat_eq_zero (isZero_iff.mp hzc)]
        exact toRat_eq_zero (isZero_iff.mp hzc)
      · rfl
    rw [if_neg (by simp [hz, hkept]), hc]
    split
    · exact ⟨_, rfl, habs.trans hcx⟩
    · exact ⟨c, rfl, hcx⟩

/-- A quotient is exact where it ends within few enough places. -/
theorem exists_div?_eq (hb : b.magnitude ≠ 0) (hx : WithinPlaces j (a.toRat / b.toRat))
    (hj : j ≤ maxScale) (hroom : |a.toRat / b.toRat| * tenTo j < limit) :
    ∃ c, a.div? b = some c ∧ c.toRat = a.toRat / b.toRat := by
  rw [div?, if_neg (mt isZero_iff.mp hb)]
  split
  · rename_i hza
    exact ⟨0, rfl, by rw [toRat_zero, toRat_eq_zero (isZero_iff.mp hza), zero_div]⟩
  · have ha0 := (tenTo_cast_pos a.scale).ne'
    have hb0 := (tenTo_cast_pos b.scale).ne'
    have hmag : (b.magnitude : ℚ) ≠ 0 := by exact_mod_cast hb
    have hn : ((a.magnitude * tenTo (b.scale + maxScale) : ℕ) : ℚ) =
        |a.toRat / b.toRat| * ((b.magnitude * tenTo a.scale : ℕ) * tenTo maxScale) := by
      rw [abs_div, abs_toRat, abs_toRat, tenTo_add]
      push_cast
      field_simp
    obtain ⟨c, hc, hcx⟩ := @exists_fit_eq _ _ _ _ (a.negative != b.negative) _
      (Nat.mul_pos (Nat.pos_of_ne_zero hb) (tenTo_pos _)) hx.abs hj hroom hn
    refine ⟨c, hc, hcx.trans ?_⟩
    rw [abs_div, div_eq_mul_inv, signed_mul, ← toRat_eq_signed, ← inv_neg, ← apply_ite Inv.inv,
      ← toRat_eq_signed, div_eq_mul_inv]

/-- The floor has room wherever it is a number of that size. -/
theorem exists_floor?_eq (h : ⌊a.toRat⌋.natAbs < limit) :
    ∃ c, a.floor? = some c ∧ c.toRat = ⌊a.toRat⌋ := by
  have hfloor : a.units.fdiv (tenTo a.scale) = ⌊a.toRat⌋ := by
    rw [Int.fdiv_eq_ediv_of_nonneg _ (Int.natCast_nonneg _), toRat, ← Rat.floor_intCast_div_natCast]
  rw [← hfloor] at h
  refine ⟨_, by rw [floor?, dif_pos h], ?_⟩
  rw [toRat, units_mk h, ← hfloor]
  simp [tenTo]

end Decimal
end TaxReturn
