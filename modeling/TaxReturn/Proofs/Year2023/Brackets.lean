import TaxReturn.Proofs.Decimal.Exact
import TaxReturn.Proofs.Year2023.Ranges

/-! The tax by brackets as a number. Each bracket taxes the part of an income that lies in it. The
arithmetic is exact for incomes in cents, so the tax is that of the statute up to where the last
bracket ends, although by the statute it does not end. -/
namespace TaxReturn.Year2023

open Decimal

variable {income lower tax x y : Decimal} {brackets : List Bracket} {status : FilingStatus}

/-- The tax on the part of `r` in each bracket from `lower` on. -/
def taxWithin (r lower : ℚ) : List Bracket → ℚ
  | [] => 0
  | bracket :: rest =>
    bracket.rate.toRat * max 0 (min r bracket.upper.toRat - lower) +
      taxWithin r bracket.upper.toRat rest

/-- Brackets that go up in whole dollars, none of them beyond the last one, with rates in whole
percents. -/
def Ladder (lower : Decimal) : List Bracket → Prop
  | [] => True
  | bracket :: rest =>
    (lower ≤ bracket.upper ∧ bracket.upper ≤ topBracket.upper ∧ bracket.upper.scale = 0) ∧
      (0 ≤ bracket.rate ∧ bracket.rate ≤ .ofNat 1 ∧ bracket.rate.scale = 2) ∧
      Ladder bracket.upper rest

instance decidableLadder : (lower : Decimal) → (brackets : List Bracket) →
    Decidable (Ladder lower brackets)
  | _, [] => isTrue trivial
  | _, bracket :: rest =>
    have := decidableLadder bracket.upper rest
    inferInstanceAs (Decidable (_ ∧ _ ∧ _))

theorem ladder_brackets (status : FilingStatus) : Ladder 0 (Year2023.brackets status) := by
  cases status <;> decide

theorem toRat_top : topBracket.upper.toRat = topOfBrackets := toRat_ofNat (by decide)

/-- An income that ends below the brackets is not taxed in them. -/
theorem taxWithin_of_le {r : ℚ} (hb : Ladder lower brackets) (h : r ≤ lower.toRat) :
    taxWithin r lower.toRat brackets = 0 := by
  induction brackets generalizing lower with
  | nil => rfl
  | cons bracket rest ih =>
    obtain ⟨⟨hup, -⟩, -, hrest⟩ := hb
    have hle := le_iff_toRat.mp hup
    have hmin := min_le_left r bracket.upper.toRat
    rw [taxWithin, ih hrest (h.trans hle), max_eq_left (by linarith), mul_zero, add_zero]

theorem room_of_le_top {r : ℚ} (hzero : 0 ≤ r) (htop : r ≤ topOfBrackets) :
    |r| * tenTo 4 < limit :=
  room_of_le hzero (htop.trans (by norm_num [topOfBrackets]))

/-- The tax on a part of an income within a bracket is exact. -/
theorem exists_slice_eq {bracket : Bracket} (hcap : bracket.upper.toRat ≤ topOfBrackets)
    (hwhole : bracket.upper.scale = 0) (hrate : 0 ≤ bracket.rate.toRat)
    (hone : bracket.rate.toRat ≤ 1) (hcents : bracket.rate.scale = 2)
    (hincome : WithinPlaces 2 income.toRat) (hlower : WithinPlaces 0 lower.toRat)
    (hzero : 0 ≤ lower.toRat) (hup : lower.toRat ≤ bracket.upper.toRat)
    (hi : lower.toRat ≤ income.toRat) :
    ∃ slice part, (min income bracket.upper).sub? lower = some slice ∧
      slice.mul? bracket.rate = some part ∧ WithinPlaces 4 part.toRat ∧
      part.toRat = bracket.rate.toRat *
        max 0 (min income.toRat bracket.upper.toRat - lower.toRat) := by
  have hupper : WithinPlaces 0 bracket.upper.toRat := hwhole ▸ withinPlaces_toRat _
  have hpercent : WithinPlaces 2 bracket.rate.toRat := hcents ▸ withinPlaces_toRat _
  have hplaces : WithinPlaces 2 (min income.toRat bracket.upper.toRat - lower.toRat) :=
    (hincome.min (hupper.mono (by decide))).sub (hlower.mono (by decide))
  have hlow : 0 ≤ min income.toRat bracket.upper.toRat - lower.toRat :=
    sub_nonneg.mpr (le_min hi hup)
  have hhigh : min income.toRat bracket.upper.toRat - lower.toRat ≤ topOfBrackets := by
    have := min_le_right income.toRat bracket.upper.toRat
    linarith
  obtain ⟨slice, hs, hsx⟩ := @exists_sub?_eq (min income bracket.upper) lower 4
    (by rw [toRat_min]; exact hplaces.mono (by decide)) (by decide)
    (by rw [toRat_min]; exact room_of_le_top hlow hhigh)
  rw [toRat_min] at hsx
  obtain ⟨part, hp, hpx⟩ := @exists_mul?_eq slice bracket.rate 2 2 (hsx ▸ hplaces) hpercent
    (by decide) (by rw [hcents]; decide) (by
      rw [← abs_mul, hsx]
      exact room_of_le_top (mul_nonneg hlow hrate) ((mul_le_of_le_one_right hlow hone).trans hhigh))
  rw [hsx] at hpx
  refine ⟨slice, part, hs, hp, hpx ▸ hplaces.mul hpercent, ?_⟩
  rw [hpx, max_eq_right hlow, mul_comm]

/-- What is taxed up to a bracket is no more than there is up to it, so every amount on the way has
room for all its places. -/
theorem exists_taxFrom_eq (hb : Ladder lower brackets) (hincome : WithinPlaces 2 income.toRat)
    (hlower : WithinPlaces 0 lower.toRat) (htop : lower.toRat ≤ topOfBrackets)
    (htax : WithinPlaces 4 tax.toRat) (hzero : 0 ≤ tax.toRat) (hle : tax.toRat ≤ lower.toRat) :
    ∃ c, taxFrom income lower tax brackets = some c ∧
      c.toRat = tax.toRat + taxWithin income.toRat lower.toRat brackets := by
  induction brackets generalizing lower tax with
  | nil => exact ⟨tax, rfl, (add_zero _).symm⟩
  | cons bracket rest ih =>
    have hladder := hb
    obtain ⟨⟨hup, hcap, hwhole⟩, ⟨hrate, hone, hcents⟩, hrest⟩ := hb
    rw [taxFrom]
    split
    · rename_i hi
      rw [taxWithin_of_le hladder (le_iff_toRat.mp hi), add_zero]
      exact ⟨tax, rfl, rfl⟩
    · rename_i hi
      rw [le_iff_toRat, not_le] at hi
      rw [le_iff_toRat] at hup hcap hrate hone
      rw [toRat_top] at hcap
      rw [toRat_zero] at hrate
      rw [toRat_ofNat, Nat.cast_one] at hone
      obtain ⟨slice, part, hs, hp, hplaces, hpx⟩ := exists_slice_eq hcap hwhole hrate hone hcents
        hincome hlower (hzero.trans hle) hup hi.le
      -- The tax on the slice is no more than the slice, and this no more than the bracket.
      have hslice : max 0 (min income.toRat bracket.upper.toRat - lower.toRat) ≤
          bracket.upper.toRat - lower.toRat :=
        max_le (by linarith) (by linarith [min_le_right income.toRat bracket.upper.toRat])
      have hpart0 : 0 ≤ part.toRat := hpx ▸ mul_nonneg hrate (le_max_left _ _)
      have hpart1 : part.toRat ≤ bracket.upper.toRat - lower.toRat :=
        hpx ▸ (mul_le_of_le_one_left (le_max_left _ _) hone).trans hslice
      obtain ⟨next, hn, hnx⟩ := exists_add?_eq (htax.add hplaces) (by decide)
        (room_of_le_top (add_nonneg hzero hpart0) (by linarith))
      obtain ⟨c, hc, hcx⟩ := ih hrest (hwhole ▸ withinPlaces_toRat _) hcap
        (hnx ▸ htax.add hplaces) (hnx ▸ add_nonneg hzero hpart0) (by linarith)
      refine ⟨c, ?_, ?_⟩
      · simp only [hs, hp, hn, Option.bind_eq_bind, Option.bind_some, hc]
      · rw [hcx, hnx, taxWithin, hpx, add_assoc]

theorem exists_bracketTax_eq (hincome : WithinPlaces 2 income.toRat) :
    ∃ c, bracketTax income status = some c ∧
      c.toRat = taxWithin income.toRat 0 (Year2023.brackets status) := by
  have hzero : WithinPlaces 4 (0 : Decimal).toRat := toRat_zero ▸ WithinPlaces.natCast 0
  obtain ⟨c, hc, hcx⟩ := exists_taxFrom_eq (ladder_brackets status) hincome
    (withinPlaces_toRat 0) (toRat_zero ▸ Nat.cast_nonneg _) hzero toRat_zero.ge le_rfl
  rw [toRat_zero, zero_add] at hcx
  exact ⟨c, hc, hcx⟩

section statute

variable {last bracket : Bracket} {r s l : ℚ}

/-- The tax on `r` in the brackets from `lower` on, of which the last one has no end. -/
def statutoryFrom (r lower : ℚ) : List Bracket → ℚ
  | [] => 0
  | [last] => last.rate.toRat * max 0 (r - lower)
  | bracket :: next :: rest =>
    bracket.rate.toRat * max 0 (min r bracket.upper.toRat - lower) +
      statutoryFrom r bracket.upper.toRat (next :: rest)

/-- The tax that the statute sets on an income. -/
def statutoryTax (status : FilingStatus) (r : ℚ) : ℚ := statutoryFrom r 0 (Year2023.brackets status)

theorem statutoryFrom_cons (h : brackets ≠ []) : statutoryFrom r l (bracket :: brackets) =
    bracket.rate.toRat * max 0 (min r bracket.upper.toRat - l) +
      statutoryFrom r bracket.upper.toRat brackets := by
  cases brackets with
  | nil => contradiction
  | cons next rest => rfl

/-- The end of the last bracket cuts the income off. -/
theorem taxWithin_append (h : ∀ bracket ∈ brackets, bracket.upper.toRat ≤ last.upper.toRat) :
    taxWithin r l (brackets ++ [last]) =
      statutoryFrom (min r last.upper.toRat) l (brackets ++ [last]) := by
  induction brackets generalizing l with
  | nil => exact add_zero _
  | cons bracket rest ih =>
    obtain ⟨hbracket, hrest⟩ := List.forall_mem_cons.mp h
    rw [List.cons_append, taxWithin, statutoryFrom_cons (by simp), ih hrest, min_assoc,
      min_eq_right hbracket]

/-- Past the start of the last bracket the tax grows at its rate. -/
theorem statutoryFrom_sub (h : ∀ bracket ∈ brackets, bracket.upper.toRat ≤ r) (hl : l ≤ r)
    (hrs : r ≤ s) :
    statutoryFrom s l (brackets ++ [last]) - statutoryFrom r l (brackets ++ [last]) =
      last.rate.toRat * (s - r) := by
  induction brackets generalizing l with
  | nil =>
    rw [List.nil_append, statutoryFrom, statutoryFrom, max_eq_right (by linarith),
      max_eq_right (by linarith)]
    ring
  | cons bracket rest ih =>
    obtain ⟨hbracket, hrest⟩ := List.forall_mem_cons.mp h
    rw [List.cons_append, statutoryFrom_cons (by simp), statutoryFrom_cons (by simp),
      min_eq_right hbracket, min_eq_right (hbracket.trans hrs), add_sub_add_left_eq_sub,
      ih hrest hbracket]

theorem statutoryFrom_mono (hb : Ladder lower brackets) (hrs : r ≤ s) :
    statutoryFrom r l brackets ≤ statutoryFrom s l brackets := by
  induction brackets generalizing lower l with
  | nil => exact le_rfl
  | cons bracket rest ih =>
    obtain ⟨-, ⟨hrate, -⟩, hrest⟩ := hb
    rw [le_iff_toRat, toRat_zero] at hrate
    by_cases hnil : rest = []
    · subst hnil
      exact mul_le_mul_of_nonneg_left (max_le_max_left _ (by linarith)) hrate
    · rw [statutoryFrom_cons hnil, statutoryFrom_cons hnil]
      refine add_le_add (mul_le_mul_of_nonneg_left (max_le_max_left _ ?_) hrate) (ih hrest)
      exact sub_le_sub_right (min_le_min_right _ hrs) _

theorem statutoryFrom_nonneg (hb : Ladder lower brackets) : 0 ≤ statutoryFrom r l brackets := by
  induction brackets generalizing lower l with
  | nil => exact le_rfl
  | cons bracket rest ih =>
    obtain ⟨-, ⟨hrate, -⟩, hrest⟩ := hb
    rw [le_iff_toRat, toRat_zero] at hrate
    by_cases hnil : rest = []
    · subst hnil
      exact mul_nonneg hrate (le_max_left _ _)
    · rw [statutoryFrom_cons hnil]
      exact add_nonneg (mul_nonneg hrate (le_max_left _ _)) (ih hrest)

/-- The tax on whole dollars is in whole cents. -/
theorem withinPlaces_statutoryFrom (hb : Ladder lower brackets) (hr : WithinPlaces 0 r)
    (hl : WithinPlaces 0 l) : WithinPlaces 2 (statutoryFrom r l brackets) := by
  have hzero : WithinPlaces 0 0 := WithinPlaces.natCast 0
  induction brackets generalizing lower l with
  | nil => exact hzero.mono (Nat.zero_le 2)
  | cons bracket rest ih =>
    obtain ⟨⟨-, -, hwhole⟩, ⟨-, -, hcents⟩, hrest⟩ := hb
    have hupper : WithinPlaces 0 bracket.upper.toRat := hwhole ▸ withinPlaces_toRat _
    have hrate : WithinPlaces 2 bracket.rate.toRat := hcents ▸ withinPlaces_toRat _
    by_cases hnil : rest = []
    · subst hnil
      exact hrate.mul (hzero.max (hr.sub hl))
    · rw [statutoryFrom_cons hnil]
      exact (hrate.mul (hzero.max ((hr.min hupper).sub hl))).add (ih hrest hupper)

/-- The tax as a sum over the brackets' starts. From each of them on the rate is another, by the
difference of its own and the `base` rate of the bracket before it. -/
def bendsFrom (base r lower : ℚ) : List Bracket → ℚ
  | [] => 0
  | bracket :: rest =>
    (bracket.rate.toRat - base) * max 0 (r - lower) +
      bendsFrom bracket.rate.toRat r bracket.upper.toRat rest

/-- What lies between two amounts is what lies above the lower less what lies above the higher. -/
theorem max_min_sub {u : ℚ} (h : l ≤ u) :
    max 0 (min r u - l) = max 0 (r - l) - max 0 (r - u) := by
  rcases le_total r u with hu | hu
  · rw [min_eq_left hu, max_eq_left (b := r - u) (by linarith), sub_zero]
  · rw [min_eq_right hu, max_eq_right (by linarith), max_eq_right (by linarith),
      max_eq_right (by linarith)]
    ring

theorem statutoryFrom_eq_bendsFrom {base : ℚ} (hb : Ladder lower brackets) (hne : brackets ≠ []) :
    statutoryFrom r lower.toRat brackets =
      bendsFrom base r lower.toRat brackets + base * max 0 (r - lower.toRat) := by
  induction brackets generalizing lower base with
  | nil => contradiction
  | cons bracket rest ih =>
    obtain ⟨⟨hup, -⟩, -, hrest⟩ := hb
    by_cases hnil : rest = []
    · subst hnil
      rw [statutoryFrom, bendsFrom, bendsFrom]
      ring
    · rw [statutoryFrom_cons hnil, bendsFrom, ih hrest hnil, max_min_sub (le_iff_toRat.mp hup)]
      ring

/-- The brackets below the last one. -/
def lowerBrackets (status : FilingStatus) : List Bracket := (Year2023.brackets status).dropLast

theorem brackets_eq_append (status : FilingStatus) :
    Year2023.brackets status = lowerBrackets status ++ [topBracket] := by
  cases status <;> rfl

/-- The income reaches into the last bracket. -/
def InTopBracket (status : FilingStatus) (r : ℚ) : Prop :=
  ∀ bracket ∈ lowerBrackets status, bracket.upper.toRat ≤ r

theorem inTopBracket_top (status : FilingStatus) : InTopBracket status topOfBrackets := by
  have hall : ∀ bracket ∈ lowerBrackets status, bracket.upper ≤ topBracket.upper := by
    cases status <;> decide
  intro bracket hmem
  exact toRat_top ▸ le_iff_toRat.mp (hall bracket hmem)

theorem taxWithin_brackets (status : FilingStatus) (r : ℚ) :
    taxWithin r 0 (Year2023.brackets status) = statutoryTax status (min r topOfBrackets) := by
  have h := inTopBracket_top status
  rw [InTopBracket, ← toRat_top] at h
  rw [statutoryTax, brackets_eq_append, taxWithin_append h, toRat_top]

theorem toRat_rate_top : topBracket.rate.toRat = 37 / 100 := toRat_cents (by decide)

theorem statutoryTax_mono (status : FilingStatus) : Monotone (statutoryTax status) :=
  fun _ _ h => statutoryFrom_mono (ladder_brackets status) h

theorem statutoryTax_sub (h : InTopBracket status r) (hr : 0 ≤ r) (hrs : r ≤ s) :
    statutoryTax status s - statutoryTax status r = 37 / 100 * (s - r) := by
  rw [statutoryTax, statutoryTax, brackets_eq_append, statutoryFrom_sub h hr hrs, toRat_rate_top]

theorem InTopBracket.nonneg (h : InTopBracket status r) : 0 ≤ r := by
  have hsome : ∃ bracket ∈ lowerBrackets status, 0 ≤ bracket.upper := by cases status <;> decide
  obtain ⟨bracket, hmem, hzero⟩ := hsome
  rw [le_iff_toRat, toRat_zero] at hzero
  exact hzero.trans (h bracket hmem)

/-- The tax on `r` in seven brackets at the rates of the year, from the starts of all but the first
one. -/
def bends (r u₁ u₂ u₃ u₄ u₅ u₆ : ℚ) : ℚ :=
  10 / 100 * max 0 r + 2 / 100 * max 0 (r - u₁) + 10 / 100 * max 0 (r - u₂) +
    2 / 100 * max 0 (r - u₃) + 8 / 100 * max 0 (r - u₄) + 3 / 100 * max 0 (r - u₅) +
    2 / 100 * max 0 (r - u₆)

theorem statutoryTax_eq_bendsFrom (status : FilingStatus) (r : ℚ) :
    statutoryTax status r = bendsFrom 0 r 0 (Year2023.brackets status) := by
  have hne : Year2023.brackets status ≠ [] := by cases status <;> decide
  have h := @statutoryFrom_eq_bendsFrom _ _ r 0 (ladder_brackets status) hne
  rwa [toRat_zero, zero_mul, add_zero] at h

theorem statutoryTax_single (r : ℚ) :
    statutoryTax .single r = bends r 11000 44725 95375 182100 231250 578125 := by
  rw [statutoryTax_eq_bendsFrom]
  simp only [Year2023.brackets, singleBrackets, topBracket, bendsFrom, toRat_ofNat, toRat_cents,
    bends]
  norm_num
  ring

theorem statutoryTax_joint (r : ℚ) :
    statutoryTax .marriedJointly r = bends r 22000 89450 190750 364200 462500 693750 := by
  rw [statutoryTax_eq_bendsFrom]
  simp only [Year2023.brackets, jointBrackets, topBracket, bendsFrom, toRat_ofNat, toRat_cents,
    bends]
  norm_num
  ring

theorem statutoryTax_separate (r : ℚ) :
    statutoryTax .marriedSeparately r = bends r 11000 44725 95375 182100 231250 346875 := by
  rw [statutoryTax_eq_bendsFrom]
  simp only [Year2023.brackets, separateBrackets, topBracket, bendsFrom, toRat_ofNat, toRat_cents,
    bends]
  norm_num
  ring

theorem statutoryTax_headOfHousehold (r : ℚ) :
    statutoryTax .headOfHousehold r = bends r 15700 59850 95350 182100 231250 578100 := by
  rw [statutoryTax_eq_bendsFrom]
  simp only [Year2023.brackets, headOfHouseholdBrackets, topBracket, bendsFrom, toRat_ofNat,
    toRat_cents, bends]
  norm_num
  ring

end statute

/-- An amount in the nearest cent, where a half goes away from zero. -/
def inCents (x : ℚ) : ℚ := halfAway (x * 100) / 100

theorem inCents_mono : Monotone inCents := fun _ _ h =>
  div_le_div_of_nonneg_right (Int.cast_le.mpr (halfAway_mono (by linarith))) (by norm_num)

/-- An income that the Tax Table does not hold is taxed by the brackets, to the cent. -/
theorem exists_figureTax_worksheet (hincome : WithinPlaces 2 income.toRat)
    (hlimit : 100000 ≤ income.toRat) : ∃ c, figureTax income status = some c ∧
      c.toRat = inCents (statutoryTax status (min income.toRat topOfBrackets)) := by
  have htable : tableLimit ≤ income := by
    rw [le_iff_toRat, tableLimit, toRat_ofNat]
    exact hlimit
  obtain ⟨c, hc, hcx⟩ := @exists_bracketTax_eq _ status hincome
  refine ⟨c.round .awayFromZero 2, by rw [figureTax, if_pos htable, hc, Option.map_some], ?_⟩
  rw [toRat_round, hcx, taxWithin_brackets, tenTo_two]
  rfl

/-- Where the last bracket ends the tax is a number of cents, and on the next cent of income it is
less than half a cent more. -/
theorem inCents_statutoryTax_iff {r : ℚ} (hr : WithinPlaces 2 r) :
    inCents (statutoryTax status (min r topOfBrackets)) = inCents (statutoryTax status r) ↔
      r ≤ topOfBrackets + 1 / 100 := by
  rcases le_total r topOfBrackets with hle | hge
  · rw [min_eq_left hle]
    exact iff_of_true rfl (by linarith)
  · obtain ⟨n, hn⟩ : WithinPlaces 2 (statutoryTax status topOfBrackets) :=
      withinPlaces_statutoryFrom (ladder_brackets status) (WithinPlaces.natCast _)
        (WithinPlaces.natCast 0)
    obtain ⟨m, hm⟩ := hr
    rw [tenTo_two, Nat.cast_ofNat] at hn hm
    have hnn : 0 ≤ statutoryTax status topOfBrackets :=
      statutoryFrom_nonneg (ladder_brackets status)
    have hsub := statutoryTax_sub (inTopBracket_top status) (Nat.cast_nonneg _) hge
    have hnext : statutoryTax status r * 100 = n + 37 * (r - topOfBrackets) := by linarith
    have hnext0 : (0 : ℚ) ≤ n + 37 * (r - topOfBrackets) := by linarith
    have hcents : (m : ℚ) = 100 * r := by linarith
    rw [min_eq_right hge, inCents, inCents, hn, hnext, halfAway_intCast, halfAway_of_nonneg hnext0,
      div_left_inj' (by norm_num), Int.cast_inj, eq_comm, Int.floor_eq_iff]
    constructor
    · rintro ⟨-, hlt⟩
      -- The cents past the end are whole, and less than half a cent of tax leaves one of them.
      have hone : m < 100 * (topOfBrackets : ℤ) + 2 := by
        have hcast : (m : ℚ) < 100 * (topOfBrackets : ℤ) + 2 := by
          rw [hcents]
          push_cast
          linarith
        exact_mod_cast hcast
      have hcast : (m : ℚ) ≤ 100 * topOfBrackets + 1 := by exact_mod_cast Int.lt_add_one_iff.mp hone
      linarith
    · intro hle
      exact ⟨by linarith, by linarith⟩

/-- By the statute the last bracket has no end. Here it has one, and up to it the tax is that of the
statute: the brackets' exactly, and from where the Tax Table stops in cents. Beyond it no income is
taxed any more, which the next cent of income does not show yet. -/
theorem statutory_iff_le_top (hx : WithinPlaces 2 x.toRat) (hy : WithinPlaces 2 y.toRat)
    (hxy : x.toRat ≤ y.toRat) :
    ∃ t u, bracketTax x status = some t ∧ bracketTax y status = some u ∧
      t.toRat = statutoryTax status (min x.toRat topOfBrackets) ∧
      (t.toRat = statutoryTax status x.toRat ↔ x.toRat ≤ topOfBrackets) ∧
      (100000 ≤ x.toRat → ∃ c, figureTax x status = some c ∧ c.toRat = inCents t.toRat ∧
        (c.toRat = inCents (statutoryTax status x.toRat) ↔ x.toRat ≤ topOfBrackets + 1 / 100)) ∧
      (InTopBracket status x.toRat →
        u.toRat - t.toRat = 37 / 100 * (min y.toRat topOfBrackets - min x.toRat topOfBrackets) ∧
        (u.toRat - t.toRat = 37 / 100 * (y.toRat - x.toRat) ↔
          y.toRat ≤ topOfBrackets ∨ x.toRat = y.toRat)) := by
  obtain ⟨t, ht, htx⟩ := @exists_bracketTax_eq _ status hx
  obtain ⟨u, hu, huy⟩ := @exists_bracketTax_eq _ status hy
  rw [taxWithin_brackets] at htx huy
  refine ⟨t, u, ht, hu, htx, ?_, ?_, ?_⟩
  · rw [htx]
    rcases le_or_gt x.toRat topOfBrackets with hle | hgt
    · rw [min_eq_left hle]
      exact iff_of_true rfl hle
    · have hsub := statutoryTax_sub (inTopBracket_top status) (Nat.cast_nonneg _) hgt.le
      rw [min_eq_right hgt.le]
      exact iff_of_false (by linarith) (not_le.mpr hgt)
  · intro hlimit
    obtain ⟨c, hc, hcx⟩ := @exists_figureTax_worksheet _ status hx hlimit
    refine ⟨c, hc, by rw [hcx, htx], ?_⟩
    rw [hcx]
    exact inCents_statutoryTax_iff hx
  · intro hin
    have hmin : InTopBracket status (min x.toRat topOfBrackets) := fun bracket hmem =>
      le_min (hin bracket hmem) (inTopBracket_top status bracket hmem)
    rw [htx, huy, statutoryTax_sub hmin hmin.nonneg (min_le_min_right _ hxy)]
    refine ⟨rfl, ?_⟩
    rcases le_total y.toRat topOfBrackets with hle | hge
    · rw [min_eq_left hle, min_eq_left (hxy.trans hle)]
      exact iff_of_true rfl (.inl hle)
    · rw [min_eq_right hge]
      constructor
      · intro h
        rcases le_total x.toRat topOfBrackets with hle | hge'
        · rw [min_eq_left hle] at h
          exact .inl (by linarith)
        · rw [min_eq_right hge'] at h
          exact .inr (by linarith)
      · rintro (hle | heq)
        · have hy' : y.toRat = topOfBrackets := le_antisymm hle hge
          rw [min_eq_left (hxy.trans hle), hy']
        · rw [heq, min_eq_right hge, sub_self, sub_self]

/-- Two single filers in the last bracket, of whom one has more than there is up to its end. -/
theorem statutory_past_the_end :
    WithinPlaces 2 (Decimal.ofNat 600000).toRat ∧ WithinPlaces 2 (Decimal.ofNat 5000000000).toRat ∧
      InTopBracket .single (Decimal.ofNat 600000).toRat ∧
      ∃ t u, bracketTax (.ofNat 600000) .single = some t ∧
        bracketTax (.ofNat 5000000000) .single = some u ∧
        t.toRat = statutoryTax .single 600000 ∧
        u.toRat - t.toRat = 37 / 100 * (4294967295 - 600000) ∧
        u.toRat - t.toRat ≠ 37 / 100 * (5000000000 - 600000) := by
  have hx : (Decimal.ofNat 600000).toRat = 600000 := toRat_ofNat (by decide)
  have hy : (Decimal.ofNat 5000000000).toRat = 5000000000 := toRat_ofNat (by decide)
  have hxp : WithinPlaces 2 (Decimal.ofNat 600000).toRat := hx ▸ WithinPlaces.natCast 600000
  have hyp : WithinPlaces 2 (Decimal.ofNat 5000000000).toRat := hy ▸ WithinPlaces.natCast 5000000000
  have hin : InTopBracket .single (Decimal.ofNat 600000).toRat := by
    have hall : ∀ bracket ∈ lowerBrackets .single, bracket.upper ≤ Decimal.ofNat 600000 := by decide
    exact fun bracket hmem => le_iff_toRat.mp (hall bracket hmem)
  obtain ⟨t, u, ht, hu, htx, -, -, hgrow⟩ :=
    @statutory_iff_le_top _ _ .single hxp hyp (by rw [hx, hy]; norm_num)
  obtain ⟨hdiff, hiff⟩ := hgrow hin
  rw [hx] at htx
  rw [hx, hy] at hdiff hiff
  refine ⟨hxp, hyp, hin, t, u, ht, hu, ?_, ?_, ?_⟩
  · rw [htx, min_eq_left (by norm_num [topOfBrackets])]
  · rw [hdiff, min_eq_right (by norm_num [topOfBrackets]),
      min_eq_left (by norm_num [topOfBrackets])]
    norm_num [topOfBrackets]
  · intro h
    rcases hiff.mp h with h | h <;> norm_num [topOfBrackets] at h

/-- The tax on five billion dollars is short of the statute's. -/
theorem bracketTax_ne_statutory :
    bracketTax (.ofNat 5000000000) .single = some (.cents 158909823115) ∧
      (Decimal.cents 158909823115).toRat ≠ statutoryTax .single (Decimal.ofNat 5000000000).toRat ∧
      statutoryTax .single (Decimal.ofNat 5000000000).toRat = 1849960332 := by
  have htax : statutoryTax .single (Decimal.ofNat 5000000000).toRat = 1849960332 := by
    rw [toRat_ofNat, statutoryTax_single]
    norm_num [bends]
  refine ⟨by decide, ?_, htax⟩
  rw [htax, toRat_cents]
  norm_num

end TaxReturn.Year2023
