import TaxReturn.Proofs.Decimal.Reading

/-! Amounts as they are entered. One with few enough digits behind its point is read digit by digit
if it is in range. One that is out of range is refused, whether there is room for its digits or
not: where the room ends, it is far out of range. -/
namespace TaxReturn.Decimal

variable {negative : Bool} {whole fraction cs : List Char} {raw : String} {a : Decimal}
  {m n next scale : ℕ} {r : ℕ × ℕ}

/-- The number that the digits before and behind a point stand for. -/
def denoted (whole fraction : List Char) : ℚ :=
  Nat.ofDigitChars 10 (whole ++ fraction) 0 / 10 ^ fraction.length

/-- An amount with more digits than these behind its point may lose the last of them. -/
def exactPlaces : ℕ := 13

/-- Digits before the point are read as they stand, or not at all. -/
theorem readWhole_eq_ok (h : readWhole m (cs.map digitOf) = .ok n) :
    n = Nat.ofDigitChars 10 cs m := by
  induction cs generalizing m with
  | nil =>
    cases h
    rfl
  | cons c cs ih =>
    rw [List.map_cons, readWhole] at h
    rw [Nat.ofDigitChars_cons]
    split at h
    · exact ih h
    · cases h

/-- Where there is no room for one more digit, rounding leaves an amount far out of range. -/
theorem lt_of_roundUp (hfull : ¬ 10 * m + next < limit) (hnext : next < 10)
    (hs : scale < exactPlaces) (h : roundUp m scale next = .ok r) :
    maxAmount * tenTo r.2 < r.1 := by
  have hmost : ∀ k, k < exactPlaces → maxAmount * tenTo k ≤ maxAmount * tenTo 12 := by
    intro k hk
    exact Nat.mul_le_mul_left _ (Nat.pow_le_pow_right (by decide) (Nat.le_of_lt_succ hk))
  have hroom : 10 * (maxAmount * tenTo 12) + 20 < limit := by decide
  have hscale := hmost scale hs
  have hless := hmost (scale - 1) (by omega)
  unfold roundUp at h
  split at h
  · cases h
    simp only
    omega
  split at h
  · cases h
    simp only
    omega
  split at h
  · cases h
  · cases h
    simp only
    omega

/-- What is out of range stays so while the digits behind the point are read. -/
theorem lt_of_readFraction (hd : ∀ c ∈ cs, c.isDigit = true)
    (hs : scale + cs.length ≤ exactPlaces) (h : readFraction m scale (cs.map digitOf) = .ok r)
    (hlarge : maxAmount * tenTo (scale + cs.length) < Nat.ofDigitChars 10 cs m) :
    maxAmount * tenTo r.2 < r.1 := by
  induction cs generalizing m scale with
  | nil =>
    cases h
    exact hlarge
  | cons c cs ih =>
    obtain ⟨hc, hcs⟩ := List.forall_mem_cons.mp hd
    rw [List.map_cons, readFraction] at h
    rw [List.length_cons] at hs hlarge
    rw [Nat.ofDigitChars_cons] at hlarge
    split at h
    · refine ih hcs (by omega) h ?_
      rwa [Nat.add_assoc, Nat.add_comm 1]
    · rename_i hstop
      have hplace : scale < maxScale := by
        have : exactPlaces < maxScale := by decide
        omega
      exact lt_of_roundUp (fun hroom => hstop ⟨hplace, hroom⟩) (digitOf_lt hc) (by omega) h

/-- So nothing that is read as an amount was out of range. -/
theorem le_of_readDigits (hd : ∀ c ∈ fraction, c.isDigit = true)
    (hs : fraction.length ≤ exactPlaces) (h : readDigits whole fraction = .ok r)
    (hle : r.1 ≤ maxAmount * tenTo r.2) :
    Nat.ofDigitChars 10 (whole ++ fraction) 0 ≤ maxAmount * tenTo fraction.length := by
  by_contra hlarge
  rw [not_le, Nat.ofDigitChars_append] at hlarge
  obtain ⟨m, hw, hf⟩ := readDigits_eq_ok_iff.mp h
  rw [← readWhole_eq_ok hw] at hlarge
  have hlt := lt_of_readFraction hd (by omega) hf (by rwa [Nat.zero_add])
  omega

theorem denoted_le_iff : denoted whole fraction ≤ maxAmount ↔
    Nat.ofDigitChars 10 (whole ++ fraction) 0 ≤ maxAmount * tenTo fraction.length := by
  rw [denoted, ← tenTo_cast, div_le_iff₀ (tenTo_cast_pos _)]
  exact_mod_cast Iff.rfl

/-- In range there is room for all the digits. -/
theorem lt_limit_of_denoted_le (hs : fraction.length ≤ exactPlaces)
    (hle : denoted whole fraction ≤ maxAmount) :
    Nat.ofDigitChars 10 (whole ++ fraction) 0 < limit := by
  calc Nat.ofDigitChars 10 (whole ++ fraction) 0
      ≤ maxAmount * tenTo fraction.length := denoted_le_iff.mp hle
    _ ≤ maxAmount * tenTo exactPlaces :=
      Nat.mul_le_mul_left _ (Nat.pow_le_pow_right (by decide) hs)
    _ < limit := by decide

/-- An amount in plain digits is one if it is in range, and it is read as it stands. -/
theorem parseAmount_eq_ok_of_plain
    (hplain : Plain negative whole fraction (Text.trimChars raw.toList))
    (hs : fraction.length ≤ exactPlaces) : parseAmount raw = .ok a ↔
      denoted whole fraction ≤ maxAmount ∧ a.negative = negative ∧
        a.magnitude = Nat.ofDigitChars 10 (whole ++ fraction) 0 ∧ a.scale = fraction.length := by
  have hread : denoted whole fraction ≤ maxAmount → readDigits whole fraction =
      .ok (Nat.ofDigitChars 10 (whole ++ fraction) 0, fraction.length) := fun hle =>
    readDigits_eq (lt_limit_of_denoted_le hs hle) (hs.trans (by decide))
  rw [parseAmount_eq_ok_iff, parse_eq_ok_iff]
  constructor
  · rintro ⟨⟨whole', fraction', hplain', hr⟩, hrange⟩
    obtain ⟨hneg, hsome⟩ := plain_iff.mp hplain
    obtain ⟨hneg', hsome'⟩ := plain_iff.mp hplain'
    rw [hsome] at hsome'
    cases hsome'
    have hdigits : ∀ c ∈ fraction, c.isDigit = true := fun c hc =>
      hplain.digits c (List.mem_append_right _ hc)
    have hle := denoted_le_iff.mpr (le_of_readDigits hdigits hs hr hrange)
    rw [hread hle, Except.ok.injEq, Prod.mk.injEq] at hr
    exact ⟨hle, hneg'.symm.trans hneg, hr.1.symm, hr.2.symm⟩
  · rintro ⟨hle, rfl, hm, hscale⟩
    refine ⟨⟨whole, fraction, hplain, ?_⟩, ?_⟩
    · rw [hm, hscale]
      exact hread hle
    · rw [IsAmount, hm, hscale]
      exact denoted_le_iff.mp hle

/-- Numbers and amounts are read from plain digits alone. With few enough of them behind the point
an amount is read exactly if the number that they stand for is in range, and what is read is this
number, with the sign that stands in front and with as many places as there are digits. -/
theorem amounts_read_exactly (raw : String) :
    ((∀ negative whole fraction, ¬ Plain negative whole fraction (Text.trimChars raw.toList)) →
      parse raw = .error (.notPlain (Text.trim raw)) ∧
      parseAmount raw = .error (.notDecimal (.notPlain (Text.trim raw)))) ∧
    ∀ negative whole fraction, Plain negative whole fraction (Text.trimChars raw.toList) →
      fraction.length ≤ 13 →
      ((∃ a, parseAmount raw = .ok a) ↔ denoted whole fraction ≤ 10 ^ 15) ∧
      ∀ a, parseAmount raw = .ok a → a.negative = negative ∧ a.scale = fraction.length ∧
        a.toRat = if negative then -denoted whole fraction else denoted whole fraction := by
  constructor
  · intro h
    have hparse := parse_eq_notPlain h
    exact ⟨hparse, by rw [parseAmount, hparse]⟩
  · intro negative whole fraction hplain hs
    have hmax : (10 : ℚ) ^ 15 = maxAmount := by norm_num [maxAmount]
    have hread := fun a => @parseAmount_eq_ok_of_plain _ _ _ _ a hplain hs
    rw [hmax]
    refine ⟨⟨?_, ?_⟩, ?_⟩
    · rintro ⟨a, ha⟩
      exact ((hread a).mp ha).1
    · intro hle
      exact ⟨⟨negative, _, fraction.length, lt_limit_of_denoted_le hs hle⟩,
        (hread _).mpr ⟨hle, rfl, rfl, rfl⟩⟩
    · intro a ha
      obtain ⟨-, hneg, hm, hscale⟩ := (hread a).mp ha
      have hvalue : denoted whole fraction = a.magnitude / tenTo a.scale := by
        rw [denoted, hm, hscale, ← tenTo_cast]
      exact ⟨hneg, hscale, by rw [toRat_eq_ite, hneg, hvalue]⟩

/-- An amount at the edge of the range, behind many zeros and with as many digits behind the point
as are sure to be read, and one that is just beyond the other edge. -/
theorem amounts_read_exactly_largest :
    parseAmount "1e3" = .error (.notDecimal (.notPlain "1e3")) ∧
    (∃ a, parseAmount " -0000000000000000000000000000001000000000000000.0000000000000" = .ok a ∧
      a.negative = true ∧ a.scale = 13 ∧ a.toRat = -10 ^ 15) ∧
    ¬ ∃ a, parseAmount "+1000000000000000.0000000000001" = .ok a := by
  refine ⟨?_, ?_, ?_⟩
  · refine ((amounts_read_exactly "1e3").1 fun negative whole fraction hplain => ?_).2
    have hnone : plain? (signOf (Text.trimChars "1e3".toList)).2 = none := by decide
    have hsome := (plain_iff.mp hplain).2
    rw [hnone] at hsome
    cases hsome
  · obtain ⟨hiff, hread⟩ := (amounts_read_exactly
      " -0000000000000000000000000000001000000000000000.0000000000000").2 true
      "0000000000000000000000000000001000000000000000".toList "0000000000000".toList
      (plain_iff.mpr ⟨by decide +kernel, by decide +kernel⟩) (by decide)
    have hvalue : denoted "0000000000000000000000000000001000000000000000".toList
        "0000000000000".toList = 10 ^ 15 := by
      have hdigits : Nat.ofDigitChars 10 ("0000000000000000000000000000001000000000000000".toList ++
          "0000000000000".toList) 0 = 10 ^ 28 := by decide +kernel
      have hlength : "0000000000000".toList.length = 13 := by decide
      rw [denoted, hdigits, hlength]
      norm_num
    obtain ⟨a, ha⟩ := hiff.mpr hvalue.le
    obtain ⟨hneg, hscale, hrat⟩ := hread a ha
    rw [if_pos rfl, hvalue] at hrat
    exact ⟨a, ha, hneg, hscale, hrat⟩
  · rw [((amounts_read_exactly "+1000000000000000.0000000000001").2 false
      "1000000000000000".toList "0000000000001".toList
      (plain_iff.mpr ⟨by decide +kernel, by decide +kernel⟩) (by decide)).1]
    have hdigits : Nat.ofDigitChars 10 ("1000000000000000".toList ++ "0000000000001".toList) 0 =
        10 ^ 28 + 1 := by decide +kernel
    have hlength : "0000000000001".toList.length = 13 := by decide
    rw [denoted, hdigits, hlength]
    norm_num

end TaxReturn.Decimal
