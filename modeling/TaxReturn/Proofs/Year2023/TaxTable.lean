import TaxReturn.Proofs.Year2023.Brackets

/-! The tax as a function of the income. The middle of a Tax Table row never goes down with the
income that it stands for, and the last row is below where the brackets take over. The tax never
goes down either, and is not lower for a filing status whose brackets start sooner. -/
namespace TaxReturn.Year2023

open Decimal

variable {income x y start width : Decimal} {status : FilingStatus} {r s : ℚ} {c d : ℕ}

/-- The start of the row of the given width, counted from zero, that holds `r`. -/
def startOf (width r : ℚ) : ℚ := ⌊r / width⌋ * width

section startOf

variable {w : ℚ} {k : ℤ} (hw : 0 < w)

include hw

theorem startOf_le : startOf w r ≤ r := (le_div_iff₀ hw).mp (Int.floor_le _)

theorem startOf_mono (h : r ≤ s) : startOf w r ≤ startOf w s := by
  refine mul_le_mul_of_nonneg_right ?_ hw.le
  exact_mod_cast Int.floor_mono (div_le_div_of_nonneg_right h hw.le)

theorem le_startOf (h : k * w ≤ r) : k * w ≤ startOf w r := by
  refine mul_le_mul_of_nonneg_right ?_ hw.le
  exact_mod_cast Int.le_floor.mpr ((le_div_iff₀ hw).mpr h)

/-- A row that starts below the start of another one is over where that starts. -/
theorem startOf_add_le (h : r < k * w) : startOf w r + w ≤ k * w := by
  have hfloor : ⌊r / w⌋ + 1 ≤ k := Int.floor_lt.mpr ((div_lt_iff₀ hw).mpr h)
  have hcast : ((⌊r / w⌋ : ℚ) + 1) ≤ k := by exact_mod_cast hfloor
  calc startOf w r + w = (⌊r / w⌋ + 1) * w := by rw [startOf]; ring
    _ ≤ k * w := mul_le_mul_of_nonneg_right hcast hw.le

theorem startOf_sub_self : startOf w (r - w) + w = startOf w r := by
  rw [startOf, startOf, sub_div, div_self hw.ne', Int.floor_sub_one]
  push_cast
  ring

theorem startOf_nonneg (h : 0 ≤ r) : 0 ≤ startOf w r := by
  have := @le_startOf r w 0 hw (by simpa using h)
  simpa using this

end startOf

theorem exists_rowStart_eq {hd : d < limit} (hincome : WithinPlaces 2 income.toRat)
    (hzero : 0 ≤ income.toRat) (hle : income.toRat ≤ 10 ^ 20) (hdvd : c * d = tenTo 2) :
    ∃ start, rowStart income (.ofNat d hd) = some start ∧
      start.toRat = startOf d income.toRat ∧ WithinPlaces 0 start.toRat := by
  have hpos : 0 < d := Nat.pos_of_ne_zero fun h => by simp [h, tenTo] at hdvd
  have hpos' : (1 : ℚ) ≤ d := by exact_mod_cast hpos
  have hquot0 : 0 ≤ income.toRat / d := by positivity
  have hquot1 : income.toRat / d ≤ 10 ^ 20 := (div_le_self hzero hpos').trans hle
  have hwidth : (Decimal.ofNat d hd).toRat = d := toRat_ofNat hd
  obtain ⟨q, hq, hqx⟩ := @exists_div?_eq income (.ofNat d hd) 4 hpos.ne'
    (hwidth ▸ hincome.div hdvd) (by decide)
    (by rw [hwidth]; exact room_of_le hquot0 (by linarith))
  rw [hwidth] at hqx
  have hfloor0 : 0 ≤ ⌊income.toRat / d⌋ := Int.floor_nonneg.mpr hquot0
  have hfloor1 : ⌊income.toRat / d⌋ ≤ 10 ^ 20 := by
    have hcast : (⌊income.toRat / d⌋ : ℚ) ≤ 10 ^ 20 := (Int.floor_le _).trans hquot1
    exact_mod_cast hcast
  obtain ⟨f, hf, hfx⟩ := @exists_floor?_eq q (by rw [hqx]; unfold limit; omega)
  rw [hqx] at hfx
  have hstart : startOf d income.toRat ≤ 10 ^ 20 := (startOf_le (by linarith)).trans hle
  have hstart0 : 0 ≤ startOf d income.toRat := startOf_nonneg (by linarith) hzero
  obtain ⟨p, hp, hpx⟩ := @exists_mul?_eq f (.ofNat d hd) 0 0
    (hfx ▸ WithinPlaces.intCast _) (hwidth ▸ WithinPlaces.natCast d) (by decide)
    (show 0 + maxScale + 0 ≤ negligibleScale by decide) (by
      rw [← abs_mul, hfx, hwidth]
      refine lt_of_le_of_lt ?_ (room_of_le hstart0 (by linarith))
      exact mul_le_mul_of_nonneg_left (by norm_num [tenTo]) (abs_nonneg _))
  rw [hfx, hwidth] at hpx
  refine ⟨p, by simp [rowStart, hq, hf, hp], hpx, hpx ▸ ?_⟩
  exact (WithinPlaces.intCast (j := 0) _).mul (WithinPlaces.natCast (j := 0) d)

theorem exists_rowMiddle_eq {hd : d < limit} (hstart : WithinPlaces 0 start.toRat)
    (hzero : 0 ≤ start.toRat) (hle : start.toRat ≤ 10 ^ 20) (hd50 : d ≤ 50) :
    ∃ middle, rowMiddle start (.ofNat d hd) = some middle ∧
      middle.toRat = start.toRat + d / 2 := by
  have hwidth : (Decimal.ofNat d hd).toRat = d := toRat_ofNat hd
  have htwo : (Decimal.ofNat 2).toRat = (2 : ℕ) := toRat_ofNat (by decide)
  have hcast : (d : ℚ) ≤ 50 := by exact_mod_cast hd50
  have hhalf0 : (0 : ℚ) ≤ d / (2 : ℕ) := by positivity
  have hten : 5 * 2 = tenTo 1 := rfl
  have hhalf : WithinPlaces 1 ((d : ℚ) / (2 : ℕ)) := (WithinPlaces.natCast (j := 0) d).div hten
  have hhalf1 : (d : ℚ) / (2 : ℕ) ≤ 50 := by
    push_cast
    linarith
  obtain ⟨h, hh, hhx⟩ := @exists_div?_eq (.ofNat d hd) (.ofNat 2) 4 (by decide)
    (by rw [hwidth, htwo]; exact hhalf.mono (by decide)) (by decide)
    (by rw [hwidth, htwo]; exact room_of_le hhalf0 (by linarith))
  rw [hwidth, htwo] at hhx
  obtain ⟨m, hm, hmx⟩ := @exists_add?_eq start h 4
    (by rw [hhx]; exact (hstart.mono (by decide)).add (hhalf.mono (by decide))) (by decide)
    (by rw [hhx]; exact room_of_le (by linarith) (by linarith))
  exact ⟨m, by simp [rowMiddle, hh, hm], by rw [hmx, hhx, Nat.cast_ofNat]⟩

/-- The middle of the row that holds `r`. Above the two rows of ten dollars they are as wide as they
are far apart. -/
def middleOf (r : ℚ) : ℚ :=
  if r < 15 then 10
  else if r < 25 then 20
  else if r < 3000 then startOf 25 r + 25 / 2
  else startOf 50 r + 25

/-- A row of twenty-five dollars is found from the one before it. -/
theorem exists_narrowRow_eq (hincome : WithinPlaces 2 income.toRat) (h25 : 25 ≤ income.toRat)
    (h3000 : income.toRat < 3000) :
    ∃ m, tableMidpoint income = some m ∧ m.toRat = startOf 25 income.toRat + 25 / 2 := by
  have hwidth : (Decimal.ofNat 25).toRat = 25 := toRat_ofNat (by decide)
  have hwhole : WithinPlaces 0 (Decimal.ofNat 25).toRat := hwidth ▸ WithinPlaces.natCast 25
  obtain ⟨z, hz, hzx⟩ := @exists_sub?_eq income (.ofNat 25) 4
    ((hincome.mono (by decide)).sub (hwhole.mono (by decide))) (by decide)
    (by rw [hwidth]; exact room_of_le (by linarith) (by linarith))
  rw [hwidth] at hzx
  obtain ⟨p, hp, hpx, hpw⟩ := @exists_rowStart_eq z 4 25 (by decide)
    (by rw [hzx]; exact hincome.sub (WithinPlaces.natCast 25)) (by linarith) (by linarith)
    (by decide)
  have hnext : p.toRat + (Decimal.ofNat 25).toRat = startOf 25 income.toRat := by
    rw [hpx, hzx, hwidth, Nat.cast_ofNat, startOf_sub_self (by norm_num)]
  have hplaces : WithinPlaces 0 (startOf 25 income.toRat) := hnext ▸ hpw.add hwhole
  have hlow : 0 ≤ startOf 25 income.toRat := startOf_nonneg (by norm_num) (by linarith)
  have hhigh : startOf 25 income.toRat ≤ income.toRat := startOf_le (by norm_num)
  obtain ⟨q, hq, hqx⟩ := @exists_add?_eq p (.ofNat 25) 4 (hnext ▸ hplaces.mono (by decide))
    (by decide) (by rw [hnext]; exact room_of_le hlow (by linarith))
  rw [hnext] at hqx
  obtain ⟨m, hm, hmx⟩ := @exists_rowMiddle_eq q 25 (by decide) (hqx ▸ hplaces) (by linarith)
    (by linarith) (by decide)
  refine ⟨m, ?_, by rw [hmx, hqx, Nat.cast_ofNat]⟩
  have hbelow : ∀ n (hn : n < limit), n ≤ 25 → ¬ income < .ofNat n hn := fun n hn hle => by
    have hcast : (n : ℚ) ≤ 25 := by exact_mod_cast hle
    rw [lt_iff_toRat, toRat_ofNat]
    linarith
  have hin : income < .ofNat 3000 := by
    rw [lt_iff_toRat, toRat_ofNat]
    exact h3000
  rw [tableMidpoint, if_neg (hbelow _ _ (by decide)), if_neg (hbelow _ _ (by decide)),
    if_neg (hbelow _ _ (by decide)), if_pos hin]
  simp only [hz, hp, hq, hm, Option.bind_eq_bind, Option.bind_some]

theorem exists_tableMidpoint_eq (hincome : WithinPlaces 2 income.toRat) (hfive : 5 ≤ income.toRat)
    (hle : income.toRat ≤ 10 ^ 20) :
    ∃ m, tableMidpoint income = some m ∧ m.toRat = middleOf income.toRat := by
  have hlt : ∀ n (hn : n < limit), income < .ofNat n hn ↔ income.toRat < n := fun n hn => by
    rw [lt_iff_toRat, toRat_ofNat]
  have hstart : ∀ n (hn : n < limit), WithinPlaces 0 (Decimal.ofNat n hn).toRat := fun n hn =>
    toRat_ofNat hn ▸ WithinPlaces.natCast n
  unfold middleOf
  split
  · rename_i h15
    obtain ⟨m, hm, hmx⟩ := @exists_rowMiddle_eq (.ofNat 5) 10 (by decide) (hstart 5 (by decide))
      (by rw [toRat_ofNat]; norm_num) (by rw [toRat_ofNat]; norm_num) (by decide)
    refine ⟨m, ?_, by rw [hmx, toRat_ofNat]; norm_num⟩
    simp only [tableMidpoint, hlt, Nat.cast_ofNat, not_lt.mpr hfive, h15, if_true, if_false, hm]
  split
  · rename_i h15 h25
    obtain ⟨m, hm, hmx⟩ := @exists_rowMiddle_eq (.ofNat 15) 10 (by decide) (hstart 15 (by decide))
      (by rw [toRat_ofNat]; norm_num) (by rw [toRat_ofNat]; norm_num) (by decide)
    refine ⟨m, ?_, by rw [hmx, toRat_ofNat]; norm_num⟩
    simp only [tableMidpoint, hlt, Nat.cast_ofNat, not_lt.mpr hfive, h15, h25, if_true, if_false,
      hm]
  split
  · rename_i h25 h3000
    exact exists_narrowRow_eq hincome (not_lt.mp h25) h3000
  · rename_i h15 h25 h3000
    obtain ⟨p, hp, hpx, hpw⟩ := @exists_rowStart_eq income 2 50 (by decide) hincome (by linarith)
      hle (by decide)
    rw [Nat.cast_ofNat] at hpx
    have hlow : 0 ≤ startOf 50 income.toRat := startOf_nonneg (by norm_num) (by linarith)
    have hhigh : startOf 50 income.toRat ≤ income.toRat := startOf_le (by norm_num)
    obtain ⟨m, hm, hmx⟩ := @exists_rowMiddle_eq p 50 (by decide) hpw (by linarith) (by linarith)
      (by decide)
    refine ⟨m, ?_, ?_⟩
    · simp only [tableMidpoint, hlt, Nat.cast_ofNat, not_lt.mpr hfive, h15, h25, h3000, if_false,
        hp, hm, Option.bind_eq_bind, Option.bind_some]
    · rw [hmx, hpx]
      norm_num

/-- Two pieces that do not go down, of which the second starts no lower than the first one ends. -/
theorem monotone_ite {f g : ℚ → ℚ} {b : ℚ} (hf : Monotone f) (hg : Monotone g)
    (hstep : ∀ r s, r < b → b ≤ s → f r ≤ g s) : Monotone fun r => if r < b then f r else g r := by
  intro r s h
  dsimp only
  split_ifs with hr hs hs
  · exact hf h
  · exact hstep r s hr (not_lt.mp hs)
  · exact absurd (h.trans_lt hs) hr
  · exact hg h

/-- The middle of a row of twenty-five dollars is above the rows of ten, and below the rows of
fifty. -/
theorem middleOf_mono : Monotone middleOf := by
  have hnarrow : Monotone fun r => startOf 25 r + 25 / 2 := fun _ _ h =>
    add_le_add_left (startOf_mono (by norm_num) h) _
  have hwide : Monotone fun r => startOf 50 r + 25 := fun _ _ h =>
    add_le_add_left (startOf_mono (by norm_num) h) _
  have hlow : ∀ r : ℚ, 25 ≤ r → 25 ≤ startOf 25 r := fun r hr => by
    have h := @le_startOf r 25 1 (by norm_num) (by simpa using hr)
    simpa using h
  have hbelow : ∀ r : ℚ, r < 3000 → startOf 25 r + 25 ≤ 3000 := fun r hr => by
    have h := @startOf_add_le r 25 120 (by norm_num) (by norm_num; exact hr)
    norm_num at h
    exact h
  have habove : ∀ r : ℚ, 3000 ≤ r → 3000 ≤ startOf 50 r := fun r hr => by
    have h := @le_startOf r 50 60 (by norm_num) (by norm_num; exact hr)
    norm_num at h
    exact h
  refine monotone_ite monotone_const (monotone_ite monotone_const (monotone_ite hnarrow hwide ?_)
    ?_) ?_
  · intro r s hr hs
    have := hbelow r hr
    have := habove s hs
    linarith
  · intro r s _ hs
    split
    · have := hlow s hs
      linarith
    · have := habove s (by linarith)
      linarith
  · intro r s _ hs
    split_ifs with h25 h3000
    · norm_num
    · have := hlow s (not_lt.mp h25)
      linarith
    · have := habove s (not_lt.mp h3000)
      linarith

theorem withinPlaces_middleOf : WithinPlaces 2 (middleOf r) := by
  have hstart : ∀ w : ℕ, WithinPlaces 2 (startOf w r) := fun w =>
    ((WithinPlaces.intCast (j := 0) _).mul (WithinPlaces.natCast (j := 0) w)).mono (by decide)
  have hten : 5 * 2 = tenTo 1 := rfl
  have hhalf : WithinPlaces 2 (25 / 2) :=
    ((WithinPlaces.natCast (j := 0) 25).div hten).mono (by decide)
  unfold middleOf
  split_ifs
  · exact WithinPlaces.natCast 10
  · exact WithinPlaces.natCast 20
  · exact (hstart 25).add hhalf
  · exact (hstart 50).add (WithinPlaces.natCast 25)

/-- The last row of the table ends where the table does. -/
theorem middleOf_le (h : r < 100000) : middleOf r ≤ 99975 := by
  rcases lt_or_ge r 3000 with hlow | hhigh
  · calc middleOf r ≤ middleOf 3000 := middleOf_mono hlow.le
      _ ≤ 99975 := by norm_num [middleOf, startOf]
  · have hend := @startOf_add_le r 50 2000 (by norm_num) (by norm_num; exact h)
    norm_num at hend
    rw [middleOf, if_neg (by linarith), if_neg (by linarith), if_neg (by linarith)]
    linarith

/-- The tax on an income: none below the first row of the table, then that on the middle of the row
in whole dollars, and past the table that on the income itself in cents. -/
def taxOn (status : FilingStatus) (r : ℚ) : ℚ :=
  if r < 100000 then if r < 5 then 0 else halfAway (statutoryTax status (middleOf r))
  else inCents (statutoryTax status (min r topOfBrackets))

theorem exists_figureTax_eq (hincome : WithinPlaces 2 income.toRat) :
    ∃ c, figureTax income status = some c ∧ c.toRat = taxOn status income.toRat := by
  unfold taxOn
  split
  · rename_i htable
    have hlimit : ¬ tableLimit ≤ income := by
      rw [le_iff_toRat, tableLimit, toRat_ofNat, not_le]
      exact htable
    rw [figureTax, if_neg hlimit]
    by_cases hfive : income.toRat < 5
    · have hnone : tableMidpoint income = none := by
        rw [tableMidpoint, if_pos]
        rw [lt_iff_toRat, toRat_ofNat]
        exact hfive
      rw [hnone, if_pos hfive]
      exact ⟨0, rfl, toRat_zero⟩
    · obtain ⟨m, hm, hmx⟩ := exists_tableMidpoint_eq hincome (not_lt.mp hfive) (by linarith)
      obtain ⟨c, hc, hcx⟩ := @exists_bracketTax_eq m status (hmx ▸ withinPlaces_middleOf)
      have hend : middleOf income.toRat ≤ topOfBrackets :=
        (middleOf_le htable).trans (by norm_num [topOfBrackets])
      rw [hm, if_neg hfive]
      refine ⟨c.round .awayFromZero 0, by simp only [hc, Option.map_some], ?_⟩
      rw [toRat_round, hcx, hmx, taxWithin_brackets, min_eq_left hend]
      simp [tenTo, Tie.nearest]
  · rename_i htable
    exact exists_figureTax_worksheet hincome (not_lt.mp htable)

theorem bends_mono_starts {u₁ u₂ u₃ u₄ u₅ u₆ v₁ v₂ v₃ v₄ v₅ v₆ : ℚ} (h₁ : v₁ ≤ u₁) (h₂ : v₂ ≤ u₂)
    (h₃ : v₃ ≤ u₃) (h₄ : v₄ ≤ u₄) (h₅ : v₅ ≤ u₅) (h₆ : v₆ ≤ u₆) :
    bends r u₁ u₂ u₃ u₄ u₅ u₆ ≤ bends r v₁ v₂ v₃ v₄ v₅ v₆ := by
  have hpart : ∀ {u v : ℚ}, v ≤ u → max 0 (r - u) ≤ max 0 (r - v) := fun h =>
    max_le_max_left _ (by linarith)
  have := hpart h₁
  have := hpart h₂
  have := hpart h₃
  have := hpart h₄
  have := hpart h₅
  have := hpart h₆
  unfold bends
  linarith

/-- Two of a head of household's brackets start twenty-five dollars sooner than a single filer's. By
then the first one, which starts later, has saved more than that costs. -/
theorem statutoryTax_headOfHousehold_le (r : ℚ) :
    statutoryTax .headOfHousehold r ≤ statutoryTax .single r := by
  have hpart : ∀ {u v : ℚ}, v ≤ u → max 0 (r - u) ≤ max 0 (r - v) := fun h =>
    max_le_max_left _ (by linarith)
  have hsooner : ∀ {u v : ℚ}, v ≤ u → max 0 (r - v) ≤ max 0 (r - u) + (u - v) := fun {u v} h =>
    max_le (by linarith [le_max_left 0 (r - u)]) (by linarith [le_max_right 0 (r - u)])
  rw [statutoryTax_headOfHousehold, statutoryTax_single, bends, bends]
  have h₁ := @hpart 15700 11000 (by norm_num)
  have h₂ := @hpart 59850 44725 (by norm_num)
  rcases le_total r 95350 with hlow | hhigh
  · rw [max_eq_left (b := r - 95350) (by linarith), max_eq_left (b := r - 95375) (by linarith),
      max_eq_left (b := r - 578100) (by linarith), max_eq_left (b := r - 578125) (by linarith)]
    linarith
  · rw [max_eq_right (b := r - 15700) (by linarith), max_eq_right (b := r - 11000) (by linarith)]
    have h₃ := @hsooner 95375 95350 (by norm_num)
    have h₆ := @hsooner 578125 578100 (by norm_num)
    linarith

theorem statutoryTax_statuses (r : ℚ) :
    statutoryTax .survivingSpouse r = statutoryTax .marriedJointly r ∧
      statutoryTax .marriedJointly r ≤ statutoryTax .headOfHousehold r ∧
      statutoryTax .headOfHousehold r ≤ statutoryTax .single r ∧
      statutoryTax .single r ≤ statutoryTax .marriedSeparately r := by
  refine ⟨rfl, ?_, statutoryTax_headOfHousehold_le r, ?_⟩
  · rw [statutoryTax_joint, statutoryTax_headOfHousehold]
    exact bends_mono_starts (by norm_num) (by norm_num) (by norm_num) (by norm_num) (by norm_num)
      (by norm_num)
  · rw [statutoryTax_single, statutoryTax_separate]
    exact bends_mono_starts le_rfl le_rfl le_rfl le_rfl le_rfl (by norm_num)

/-- The last row of the table is twenty-five dollars short of its end. -/
theorem statutoryTax_last_row (status : FilingStatus) :
    statutoryTax status 99975 + 1 ≤ statutoryTax status 100000 := by
  have hjoint : statutoryTax .marriedJointly 99975 + 1 ≤ statutoryTax .marriedJointly 100000 := by
    rw [statutoryTax_joint, statutoryTax_joint]
    norm_num [bends]
  cases status with
  | single =>
    rw [statutoryTax_single, statutoryTax_single]
    norm_num [bends]
  | marriedJointly => exact hjoint
  | survivingSpouse => exact hjoint
  | marriedSeparately =>
    rw [statutoryTax_separate, statutoryTax_separate]
    norm_num [bends]
  | headOfHousehold =>
    rw [statutoryTax_headOfHousehold, statutoryTax_headOfHousehold]
    norm_num [bends]

theorem inCents_nonneg (h : 0 ≤ r) : 0 ≤ inCents r := by
  have hzero : inCents 0 = 0 := by norm_num [inCents, halfAway]
  exact hzero ▸ inCents_mono h

theorem taxOn_mono (status : FilingStatus) : Monotone (taxOn status) := by
  have htax := statutoryTax_mono status
  have hnn : ∀ r, 0 ≤ statutoryTax status r :=
    fun r => statutoryFrom_nonneg (ladder_brackets status)
  have hround : ∀ r, 0 ≤ halfAway (statutoryTax status r) := fun r =>
    halfAway_intCast 0 ▸ halfAway_mono (by exact_mod_cast hnn r)
  have htable : Monotone fun r => ((halfAway (statutoryTax status (middleOf r)) : ℤ) : ℚ) :=
    fun _ _ h => Int.cast_le.mpr (halfAway_mono (htax (middleOf_mono h)))
  have hworksheet : Monotone fun r => inCents (statutoryTax status (min r topOfBrackets)) :=
    fun _ _ h => inCents_mono (htax (min_le_min_right _ h))
  refine monotone_ite (monotone_ite monotone_const htable ?_) hworksheet ?_
  · intro r s _ _
    exact_mod_cast hround (middleOf s)
  · intro r s hr hs
    split
    · exact inCents_nonneg (hnn _)
    -- What rounding to dollars adds to the tax on the last row is less than the step to the limit.
    · have hrow := htax (middleOf_le hr)
      have hstep := statutoryTax_last_row status
      have hdollars := (abs_le.mp (abs_sub_halfAway_le (statutoryTax status (middleOf r)))).1
      have hcents := (abs_le.mp (abs_sub_halfAway_le (statutoryTax status 100000 * 100))).2
      have hlimit := hworksheet hs
      have hmin : min (100000 : ℚ) topOfBrackets = 100000 :=
        min_eq_left (by norm_num [topOfBrackets])
      dsimp only at hlimit
      rw [hmin] at hlimit
      refine le_trans ?_ hlimit
      rw [inCents]
      linarith

/-- The order of the statuses by their tax. -/
theorem taxOn_mono_status {status other : FilingStatus}
    (h : ∀ r, statutoryTax status r ≤ statutoryTax other r) (r : ℚ) :
    taxOn status r ≤ taxOn other r := by
  unfold taxOn
  split_ifs
  · exact le_rfl
  · exact_mod_cast halfAway_mono (h _)
  · exact inCents_mono (h _)

/-- A higher income is not taxed less, whichever the filing status, and the same income is taxed the
less the later the status lets the brackets start. -/
theorem figureTax_never_decreases (hx : WithinPlaces 2 x.toRat) (hy : WithinPlaces 2 y.toRat)
    (hxy : x ≤ y) :
    (∀ status, ∃ t u, figureTax x status = some t ∧ figureTax y status = some u ∧ t ≤ u) ∧
      ∃ joint head single separate, figureTax x .marriedJointly = some joint ∧
        figureTax x .survivingSpouse = some joint ∧ figureTax x .headOfHousehold = some head ∧
        figureTax x .single = some single ∧ figureTax x .marriedSeparately = some separate ∧
        joint ≤ head ∧ head ≤ single ∧ single ≤ separate := by
  constructor
  · intro status
    obtain ⟨t, ht, htx⟩ := @exists_figureTax_eq _ status hx
    obtain ⟨u, hu, huy⟩ := @exists_figureTax_eq _ status hy
    refine ⟨t, u, ht, hu, ?_⟩
    rw [le_iff_toRat, htx, huy]
    exact taxOn_mono status (le_iff_toRat.mp hxy)
  · obtain ⟨joint, hj, hjx⟩ := @exists_figureTax_eq _ .marriedJointly hx
    obtain ⟨head, hh, hhx⟩ := @exists_figureTax_eq _ .headOfHousehold hx
    obtain ⟨single, hs, hsx⟩ := @exists_figureTax_eq _ .single hx
    obtain ⟨separate, hm, hmx⟩ := @exists_figureTax_eq _ .marriedSeparately hx
    refine ⟨joint, head, single, separate, hj, hj, hh, hs, hm, ?_, ?_, ?_⟩
    · rw [le_iff_toRat, hjx, hhx]
      exact taxOn_mono_status (fun r => (statutoryTax_statuses r).2.1) _
    · rw [le_iff_toRat, hhx, hsx]
      exact taxOn_mono_status (fun r => (statutoryTax_statuses r).2.2.1) _
    · rw [le_iff_toRat, hsx, hmx]
      exact taxOn_mono_status (fun r => (statutoryTax_statuses r).2.2.2) _

/-- The last cent that the table holds, and the first one that it does not. -/
theorem figureTax_never_decreases_at_limit :
    WithinPlaces 2 (Decimal.cents 9999999).toRat ∧ WithinPlaces 2 (Decimal.ofNat 100000).toRat ∧
      Decimal.cents 9999999 ≤ .ofNat 100000 ∧
      ∃ t u, figureTax (.cents 9999999) .single = some t ∧
        figureTax (.ofNat 100000) .single = some u ∧ t ≤ u := by
  have hx : WithinPlaces 2 (Decimal.cents 9999999).toRat := withinPlaces_toRat _
  have hy : WithinPlaces 2 (Decimal.ofNat 100000).toRat :=
    (withinPlaces_toRat (Decimal.ofNat 100000)).mono (Nat.zero_le 2)
  have hxy : Decimal.cents 9999999 ≤ .ofNat 100000 := by decide
  exact ⟨hx, hy, hxy, (figureTax_never_decreases hx hy hxy).1 .single⟩

end TaxReturn.Year2023
