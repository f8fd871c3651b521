import TaxReturn.Proofs.Decimal.Bounds

/-! Decimals as rational numbers. Among amounts of cents that are far from the limit arithmetic is
exact, and any other amount becomes one of cents by rounding, where a tie goes to the even
neighbour. -/
namespace TaxReturn

/-- The integer next to `x`, and of two that are equally near the even one. -/
def halfEven (x : ℚ) : ℤ :=
  if x - ⌊x⌋ < 1 / 2 then ⌊x⌋
  else if 1 / 2 < x - ⌊x⌋ then ⌊x⌋ + 1
  else if Even ⌊x⌋ then ⌊x⌋ else ⌊x⌋ + 1

/-- `n` is next to `x`, and even if another integer is as near. -/
structure NearestEven (x : ℚ) (n : ℤ) : Prop where
  near : |x - n| ≤ 1 / 2
  even : |x - n| = 1 / 2 → Even n

theorem nearestEven_halfEven (x : ℚ) : NearestEven x (halfEven x) := by
  have hlow := Int.floor_le x
  have hhigh := Int.lt_floor_add_one x
  unfold halfEven
  split
  · rename_i h
    have habs : |x - ⌊x⌋| < 1 / 2 := abs_lt.mpr ⟨by linarith, h⟩
    exact ⟨habs.le, fun he => absurd he habs.ne⟩
  split
  · rename_i h
    have habs : |x - (⌊x⌋ + 1 : ℤ)| < 1 / 2 := by
      push_cast
      exact abs_lt.mpr ⟨by linarith, by linarith⟩
    exact ⟨habs.le, fun he => absurd he habs.ne⟩
  · rename_i h h'
    have htie : x - ⌊x⌋ = 1 / 2 := le_antisymm (not_lt.mp h') (not_lt.mp h)
    split
    · rename_i heven
      exact ⟨by rw [htie]; norm_num, fun _ => heven⟩
    · rename_i hodd
      have hup : x - (⌊x⌋ + 1 : ℤ) = -(1 / 2) := by
        push_cast
        linarith
      refine ⟨by rw [hup]; norm_num, fun _ => ?_⟩
      exact (Int.not_even_iff_odd.mp hodd).add_one

namespace NearestEven

variable {x : ℚ} {m n : ℤ}

theorem neg (h : NearestEven x n) : NearestEven (-x) (-n) := by
  have habs : |-x - (-n : ℤ)| = |x - n| := by
    push_cast
    rw [← abs_neg]
    congr 1
    ring
  exact ⟨habs ▸ h.near, fun he => (h.even (habs ▸ he)).neg⟩

/-- There is one such integer. Two of them were neighbours, both even. -/
theorem unique (h : NearestEven x m) (h' : NearestEven x n) : m = n := by
  by_contra hne
  wlog hlt : m < n generalizing m n
  · exact this h' h (Ne.symm hne) (lt_of_le_of_ne (not_lt.mp hlt) (Ne.symm hne))
  have hcast : (m : ℚ) + 1 ≤ n := by exact_mod_cast hlt
  have hm := abs_le.mp h.near
  have hn := abs_le.mp h'.near
  have hxm : x - m = 1 / 2 := by linarith
  have hxn : x - n = -(1 / 2) := by linarith
  have hnext : n = m + 1 := by
    have : (n : ℚ) = m + 1 := by linarith
    exact_mod_cast this
  have hmeven := h.even (by rw [hxm]; norm_num)
  have hneven := h'.even (by rw [hxn]; norm_num)
  rw [hnext] at hneven
  exact Int.not_even_iff_odd.mpr hmeven.add_one hneven

/-- Any other integer is farther from `x`, or as far if this one is even. -/
theorem nearer (h : NearestEven x n) (hm : m ≠ n) :
    |x - n| < |x - m| ∨ |x - n| = |x - m| ∧ Even n := by
  have hone : (1 : ℚ) ≤ |(m : ℚ) - n| := by
    have : 1 ≤ |m - n| := Int.one_le_abs (sub_ne_zero.mpr hm)
    exact_mod_cast this
  have htriangle : |(m : ℚ) - n| ≤ |x - m| + |x - n| := by
    rw [abs_sub_comm x m]
    exact abs_sub_le _ x _
  have hnear := h.near
  rcases (show |x - n| ≤ |x - m| by linarith).lt_or_eq with hlt | heq
  · exact .inl hlt
  · exact .inr ⟨heq, h.even (by linarith)⟩

theorem eq_halfEven (h : NearestEven x n) : n = halfEven x := h.unique (nearestEven_halfEven x)

end NearestEven

theorem halfEven_neg (x : ℚ) : halfEven (-x) = -halfEven x :=
  (nearestEven_halfEven x).neg.eq_halfEven.symm

/-- Only a tie between neighbours could be rounded against the order, and there is one way to
round it. -/
theorem halfEven_mono : Monotone halfEven := by
  intro x y hxy
  by_contra hlt
  have hx := abs_le.mp (nearestEven_halfEven x).near
  have hy := abs_le.mp (nearestEven_halfEven y).near
  have hnext : (halfEven y : ℚ) + 1 ≤ halfEven x := by exact_mod_cast not_le.mp hlt
  have heq : x = y := by linarith
  rw [heq] at hlt
  exact hlt le_rfl

theorem halfEven_intCast (n : ℤ) : halfEven n = n := by
  simp [halfEven]

/-- The integer next to `x`, and of two that are equally near the one farther from zero. -/
def halfAway (x : ℚ) : ℤ := if x < 0 then -⌊1 / 2 - x⌋ else ⌊x + 1 / 2⌋

theorem halfAway_of_nonneg {x : ℚ} (h : 0 ≤ x) : halfAway x = ⌊x + 1 / 2⌋ := if_neg (not_lt.mpr h)

theorem halfAway_neg (x : ℚ) : halfAway (-x) = -halfAway x := by
  rcases lt_trichotomy x 0 with h | rfl | h
  · rw [halfAway_of_nonneg (by linarith), halfAway, if_pos h, neg_neg, neg_add_eq_sub]
  · norm_num [halfAway]
  · rw [halfAway, if_pos (by linarith), halfAway_of_nonneg h.le, sub_neg_eq_add, add_comm]

theorem halfAway_intCast (n : ℤ) : halfAway n = n := by
  have hfloor : ∀ m : ℤ, ⌊(m : ℚ) + 1 / 2⌋ = m := by
    intro m
    rw [Int.floor_intCast_add]
    norm_num
  unfold halfAway
  split
  · have h := hfloor (-n)
    push_cast at h
    rw [sub_eq_neg_add, h, neg_neg]
  · exact hfloor n

theorem halfAway_mono : Monotone halfAway := by
  intro x y h
  unfold halfAway
  split <;> split
  · exact neg_le_neg (Int.floor_mono (by linarith))
  · have hx : 0 ≤ ⌊1 / 2 - x⌋ := Int.floor_nonneg.mpr (by linarith)
    have hy : 0 ≤ ⌊y + 1 / 2⌋ := Int.floor_nonneg.mpr (by linarith)
    omega
  · linarith
  · exact Int.floor_mono (by linarith)

/-- What is rounded is off by no more than a half. -/
theorem abs_sub_halfAway_le (x : ℚ) : |x - halfAway x| ≤ 1 / 2 := by
  have hfloor : ∀ y : ℚ, |y - ⌊y + 1 / 2⌋| ≤ 1 / 2 := fun y => by
    have := Int.floor_le (y + 1 / 2)
    have := Int.lt_floor_add_one (y + 1 / 2)
    exact abs_le.mpr ⟨by linarith, by linarith⟩
  unfold halfAway
  split
  · have hx : x - (-⌊1 / 2 - x⌋ : ℤ) = -(-x - ⌊-x + 1 / 2⌋) := by
      rw [neg_add_eq_sub]
      push_cast
      ring
    rw [hx, abs_neg]
    exact hfloor (-x)
  · exact hfloor x

section quotient

variable {n d : ℕ} (hd : 0 < d)

include hd

theorem natCast_div_eq : (n : ℚ) / d = (n / d : ℕ) + (n % d : ℕ) / d := by
  have hd' : (d : ℚ) ≠ 0 := by exact_mod_cast hd.ne'
  have hdiv : (d : ℚ) * (n / d : ℕ) + (n % d : ℕ) = n := by exact_mod_cast Nat.div_add_mod n d
  rw [← hdiv, add_div, mul_div_cancel_left₀ _ hd']

theorem mod_div_lt_half_iff : ((n % d : ℕ) : ℚ) / d < 1 / 2 ↔ 2 * (n % d) < d := by
  have hd' : (0 : ℚ) < d := by exact_mod_cast hd
  rw [div_lt_div_iff₀ hd' two_pos, one_mul, mul_comm]
  exact_mod_cast Iff.rfl

/-- The quotient that is rounded to even is so in this sense too. -/
theorem halfEven_div : halfEven ((n : ℚ) / d) = roundDiv .toEven n d := by
  have hd' : (0 : ℚ) < d := by exact_mod_cast hd
  have hfloor : ⌊(n : ℚ) / d⌋ = ((n / d : ℕ) : ℤ) := Rat.floor_natCast_div_natCast n d
  have hrest : (n : ℚ) / d - ((n / d : ℕ) : ℤ) = (n % d : ℕ) / d := by
    rw [natCast_div_eq hd, Int.cast_natCast, add_sub_cancel_left]
  have habove : 1 / 2 < ((n % d : ℕ) : ℚ) / d ↔ d < 2 * (n % d) := by
    rw [div_lt_div_iff₀ two_pos hd', one_mul, mul_comm]
    exact_mod_cast Iff.rfl
  have heven : Even ((n / d : ℕ) : ℤ) ↔ n / d % 2 = 0 := by
    rw [Int.even_coe_nat, Nat.even_iff]
  simp only [halfEven, roundDiv, hfloor, hrest, mod_div_lt_half_iff hd, habove, heven]
  split_ifs <;> push_cast <;> omega

theorem halfAway_div : halfAway ((n : ℚ) / d) = roundDiv .awayFromZero n d := by
  have hd' : (0 : ℚ) < d := by exact_mod_cast hd
  have hlt : ((n % d : ℕ) : ℚ) / d < 1 := by
    rw [div_lt_one hd']
    exact_mod_cast Nat.mod_lt n hd
  have hrest : (0 : ℚ) ≤ (n % d : ℕ) / d := by positivity
  rw [halfAway_of_nonneg (by positivity), natCast_div_eq hd, add_assoc, Int.floor_natCast_add]
  by_cases hhalf : 2 * (n % d) < d
  · have hbelow := (mod_div_lt_half_iff hd).mpr hhalf
    have hfloor : ⌊((n % d : ℕ) : ℚ) / d + 1 / 2⌋ = 0 := by
      rw [Int.floor_eq_iff]
      push_cast
      exact ⟨by linarith, by linarith⟩
    rw [hfloor]
    simp [roundDiv, hhalf]
  · have habove := not_lt.mp (mt (mod_div_lt_half_iff hd).mp hhalf)
    have hfloor : ⌊((n % d : ℕ) : ℚ) / d + 1 / 2⌋ = 1 := by
      rw [Int.floor_eq_iff]
      push_cast
      exact ⟨by linarith, by linarith⟩
    rw [hfloor]
    simp [roundDiv, hhalf]

end quotient

/-- The integer next to a number, where a tie goes as it is told to. -/
def Tie.nearest : Tie → ℚ → ℤ
  | toEven => halfEven
  | awayFromZero => halfAway

namespace Tie

variable (tie : Tie)

theorem nearest_div {n d : ℕ} (hd : 0 < d) : tie.nearest ((n : ℚ) / d) = roundDiv tie n d := by
  cases tie with
  | toEven => exact halfEven_div hd
  | awayFromZero => exact halfAway_div hd

theorem nearest_neg (x : ℚ) : tie.nearest (-x) = -tie.nearest x := by
  cases tie with
  | toEven => exact halfEven_neg x
  | awayFromZero => exact halfAway_neg x

theorem nearest_intCast (n : ℤ) : tie.nearest n = n := by
  cases tie with
  | toEven => exact halfEven_intCast n
  | awayFromZero => exact halfAway_intCast n

end Tie

namespace Decimal

variable {a b c : Decimal} {amounts : List Decimal} {j k m places scale : ℕ} {negative : Bool}

theorem tenTo_cast (n : ℕ) : (tenTo n : ℚ) = 10 ^ n := Nat.cast_pow 10 n

theorem tenTo_cast_pos (n : ℕ) : (0 : ℚ) < tenTo n := by exact_mod_cast tenTo_pos n

/-- The number that a decimal stands for. -/
def toRat (a : Decimal) : ℚ := a.units / tenTo a.scale

theorem toRat_of_cents (h : a.scale = 2) : a.toRat = a.units / 100 := by
  rw [toRat, h, tenTo_two]
  norm_num

theorem toRat_mk (h : m < limit) : toRat ⟨negative, m, scale, h⟩ =
    if negative then -((m : ℚ) / tenTo scale) else m / tenTo scale := by
  unfold toRat units
  cases negative <;> simp [neg_div]

theorem toRat_eq_ite (a : Decimal) : a.toRat =
    if a.negative then -((a.magnitude : ℚ) / tenTo a.scale) else a.magnitude / tenTo a.scale :=
  toRat_mk a.magnitude_lt

theorem toRat_eq_zero (h : a.magnitude = 0) : a.toRat = 0 := by
  rw [toRat, units_eq_zero h]
  norm_num

/-- Decimals are compared as the numbers that they stand for. -/
theorem lt_iff_toRat : a < b ↔ a.toRat < b.toRat := by
  have ha : (0 : ℚ) < tenTo a.scale := by exact_mod_cast tenTo_pos a.scale
  have hb : (0 : ℚ) < tenTo b.scale := by exact_mod_cast tenTo_pos b.scale
  rw [lt_iff_units, toRat, toRat, div_lt_div_iff₀ ha hb]
  exact_mod_cast Iff.rfl

theorem toRat_neg (a : Decimal) : (-a).toRat = -a.toRat := by
  have hunits : (-a).units = -a.units := by
    change (neg a).units = -a.units
    unfold neg units
    cases a.negative <;> simp
  change ((-a).units : ℚ) / tenTo a.scale = -(a.units / tenTo a.scale)
  rw [hunits]
  push_cast
  ring

/-- What is kept of a sum of cents is exact. -/
theorem toRat_add? (ha : a.IsCents j) (hb : b.IsCents k) (hlimit : (j + k) * 100 < limit)
    (hc : a.add? b = some c) : c.scale = 2 ∧ c.toRat = a.toRat + b.toRat := by
  have hma := ha.magnitude_le
  have hmb := hb.magnitude_le
  obtain ⟨c', hc', hs, hu, -⟩ := exists_add? (hb.scale.trans ha.scale.symm) (by omega)
  cases hc.symm.trans hc'
  have hscale := hs.trans ha.scale
  refine ⟨hscale, ?_⟩
  rw [toRat_of_cents hscale, toRat_of_cents ha.scale, toRat_of_cents hb.scale, hu]
  push_cast
  ring

theorem toRat_sub? (ha : a.IsCents j) (hb : b.IsCents k) (hlimit : (j + k) * 100 < limit)
    (hc : a.sub? b = some c) : c.scale = 2 ∧ c.toRat = a.toRat - b.toRat := by
  unfold sub? at hc
  split at hc
  · rename_i hz
    cases hc
    have hzb := toRat_eq_zero (isZero_iff.mp hz)
    split
    · rename_i hz'
      exact ⟨hb.scale, by rw [hzb, toRat_eq_zero (isZero_iff.mp hz'), sub_zero]⟩
    · exact ⟨ha.scale, by rw [hzb, sub_zero]⟩
  · rw [sub_eq_add_neg, ← toRat_neg]
    exact toRat_add? ha hb.neg hlimit hc

theorem toRat_nonNegative (a : Decimal) : a.nonNegative.toRat = max 0 a.toRat := by
  have hzero : (0 : Decimal).toRat = 0 := toRat_eq_zero rfl
  change (if a < 0 then 0 else a).toRat = _
  by_cases h : a < 0
  · have hlt := lt_iff_toRat.mp h
    rw [hzero] at hlt
    rw [if_pos h, hzero, max_eq_left hlt.le]
  · have hge := mt lt_iff_toRat.mpr h
    rw [hzero, not_lt] at hge
    rw [if_neg h, max_eq_right hge]

theorem toRat_pad (a : Decimal) (n : ℕ) : (a.pad n).toRat = a.toRat := by
  induction n generalizing a with
  | zero => rfl
  | succ n ih =>
    rw [pad]
    split
    · rw [ih, toRat_mk, toRat_eq_ite a, tenTo_succ]
      push_cast
      rw [mul_comm (a.magnitude : ℚ), mul_div_mul_left _ _ (by norm_num)]
    · rfl

/-- With more places it is the same number, whether there is room for all of them or not. -/
theorem toRat_extend (a : Decimal) (places : ℕ) : (a.extend places).toRat = a.toRat := by
  unfold extend
  split
  · rfl
  split
  · rename_i hz
    rw [toRat_eq_zero hz]
    exact toRat_eq_zero hz
  · exact toRat_pad a _

/-- A total of amounts in cents is exact, and so is what is kept of it. -/
theorem toRat_total (hs : ∀ amount ∈ amounts, amount.scale = 2)
    (hfit : (amounts.map magnitude).sum < limit) (h : sum? 0 amounts = some c) :
    c.toRat = (amounts.map toRat).sum ∧ (c.fixPlaces 2).toRat = (amounts.map toRat).sum := by
  obtain ⟨c', hc, hscale, hunits, -⟩ := exists_total hs hfit
  cases h.symm.trans hc
  cases amounts with
  | nil =>
    cases h
    exact ⟨toRat_eq_zero rfl, toRat_eq_zero rfl⟩
  | cons amount rest =>
    rw [if_neg (List.cons_ne_nil _ _)] at hscale
    rw [fixPlaces_of_scale hscale, and_self, toRat_of_cents hscale, hunits]
    clear hfit h hc hscale hunits
    generalize amount :: rest = amounts at hs ⊢
    induction amounts with
    | nil => simp
    | cons amount rest ih =>
      obtain ⟨hamount, hrest⟩ := List.forall_mem_cons.mp hs
      rw [List.map_cons, List.sum_cons, List.map_cons, List.sum_cons, ← ih hrest,
        toRat_of_cents hamount, Int.cast_add, add_div]

/-- A value that rounds to zero loses its sign, and so nothing of what it counts. -/
theorem units_round {tie : Tie} (hs : places < a.scale) : (a.round tie places).units =
    if a.negative then -(roundDiv tie a.magnitude (tenTo (a.scale - places)) : ℤ)
    else roundDiv tie a.magnitude (tenTo (a.scale - places)) := by
  rw [round, dif_neg (not_le.mpr hs)]
  unfold units
  dsimp only
  by_cases hz : roundDiv tie a.magnitude (tenTo (a.scale - places)) = 0
  · simp [hz]
  · cases a.negative <;> simp [hz]

/-- With more places it is a whole number of the units of the last one. -/
theorem toRat_mul_tenTo (hs : a.scale ≤ places) :
    a.toRat * tenTo places = (a.units * tenTo (places - a.scale) : ℤ) := by
  have ha : (tenTo a.scale : ℚ) ≠ 0 := by exact_mod_cast (tenTo_pos _).ne'
  have hscale : (tenTo places : ℚ) = tenTo a.scale * tenTo (places - a.scale) := by
    rw [← Nat.cast_mul, ← tenTo_add, Nat.add_sub_cancel' hs]
  rw [toRat, hscale]
  push_cast
  field_simp

/-- Rounding goes to the nearest number with as few places. -/
theorem toRat_round (tie : Tie) (a : Decimal) (places : ℕ) :
    (a.round tie places).toRat = tie.nearest (a.toRat * tenTo places) / tenTo places := by
  have hten : (tenTo places : ℚ) ≠ 0 := by exact_mod_cast (tenTo_pos _).ne'
  rcases Nat.lt_or_ge places a.scale with hs | hs
  · have hpos := tenTo_pos (a.scale - places)
    have hscale : (tenTo a.scale : ℚ) = tenTo (a.scale - places) * tenTo places := by
      rw [← Nat.cast_mul, ← tenTo_add, Nat.sub_add_cancel hs.le]
    have hquot : a.toRat * tenTo places = a.units / tenTo (a.scale - places) := by
      rw [toRat, hscale, div_mul_eq_mul_div, mul_div_mul_right _ _ hten]
    have hplaces : (a.round tie places).scale = places := by
      rw [round, dif_neg (not_le.mpr hs)]
    rw [toRat, hplaces, units_round hs, hquot, units]
    cases a.negative with
    | false =>
      simp only [Bool.false_eq_true, if_false, Int.cast_natCast, tie.nearest_div hpos]
    | true =>
      simp only [if_true, Int.cast_neg, Int.cast_natCast, neg_div, tie.nearest_neg,
        tie.nearest_div hpos]
  -- There is nothing to round.
  · have hround : a.round tie places = a := dif_pos hs
    rw [hround, toRat_mul_tenTo hs, tie.nearest_intCast, ← toRat_mul_tenTo hs,
      mul_div_cancel_right₀ _ hten]

/-- An amount that is kept is rounded to the places there are, and a tie goes to even. -/
theorem toRat_fixPlaces (a : Decimal) (places : ℕ) :
    (a.fixPlaces places).toRat = halfEven (a.toRat * tenTo places) / tenTo places := by
  rw [fixPlaces, toRat_extend]
  exact toRat_round .toEven a places

end Decimal
end TaxReturn
