import TaxReturn.Proofs.Decimal.Exact
import TaxReturn.Proofs.Decoding

/-! Numbers as they are read from their texts. What has more places than are read is rounded by the
first figure left out, which no number that arithmetic makes has: the places it may carry beyond
those that are read hold nothing but zeros. -/
namespace TaxReturn.Decimal

variable {a b c : Decimal} {digit : Char} {cs rest : List Char} {d m n places scale : ℕ}
  {negative : Bool} {tie : Tie} {x : ℚ}

theorem digitOf_lt (h : digit.isDigit = true) : digitOf digit < 10 := by
  have hb : 48 ≤ digit.toNat ∧ digit.toNat ≤ 57 := by
    simpa [Char.isDigit, UInt32.le_iff_toNat_le] using h
  change digit.toNat - 48 < 10
  omega

theorem ofDigitChars_lt (hd : ∀ c ∈ cs, c.isDigit = true) :
    Nat.ofDigitChars 10 cs 0 < tenTo cs.length := by
  induction cs with
  | nil => decide
  | cons c cs ih =>
    obtain ⟨hc, hcs⟩ := List.forall_mem_cons.mp hd
    have hlt := ih hcs
    have hdigit : tenTo cs.length * digitOf c ≤ tenTo cs.length * 9 :=
      Nat.mul_le_mul_left _ (Nat.le_of_lt_succ (digitOf_lt hc))
    have hvalue : Nat.ofDigitChars 10 (c :: cs) 0 =
        tenTo cs.length * digitOf c + Nat.ofDigitChars 10 cs 0 := by
      rw [Nat.ofDigitChars_cons, Nat.ofDigitChars_eq_ofDigitChars_zero, Nat.mul_zero, Nat.zero_add]
      rfl
    rw [hvalue, List.length_cons, tenTo_succ]
    omega

/-- Digits behind others: what they are read on top of counts for as many places as they take. -/
theorem ofDigitChars_cons_eq : Nat.ofDigitChars 10 (digit :: rest) m =
    tenTo (rest.length + 1) * m +
      (tenTo rest.length * digitOf digit + Nat.ofDigitChars 10 rest 0) := by
  rw [Nat.ofDigitChars_cons, Nat.ofDigitChars_eq_ofDigitChars_zero, tenTo_succ]
  change tenTo rest.length * (10 * m + digitOf digit) + _ = _
  ring

/-- Rounding by the first of the digits left out is rounding by all of them. -/
theorem roundUp_eq (hd : ∀ c ∈ digit :: rest, c.isDigit = true) (hroom : m + 1 < limit) :
    roundUp m scale (digitOf digit) = .ok (roundDiv .awayFromZero
      (Nat.ofDigitChars 10 (digit :: rest) m) (tenTo (rest.length + 1)), scale) := by
  have hrest := ofDigitChars_lt (List.forall_mem_cons.mp hd).2
  have hten := tenTo_succ rest.length
  rw [ofDigitChars_cons_eq]
  generalize Nat.ofDigitChars 10 rest 0 = r at hrest
  have hleft : tenTo rest.length * digitOf digit + r < tenTo (rest.length + 1) := by
    have : tenTo rest.length * digitOf digit ≤ tenTo rest.length * 9 :=
      Nat.mul_le_mul_left _ (Nat.le_of_lt_succ (digitOf_lt (hd _ List.mem_cons_self)))
    omega
  rw [roundDiv, Nat.mul_add_div (tenTo_pos _), Nat.mul_add_mod, Nat.div_eq_of_lt hleft,
    Nat.mod_eq_of_lt hleft, roundUp, if_pos hroom]
  by_cases hlow : digitOf digit < 5
  · have : tenTo rest.length * digitOf digit ≤ tenTo rest.length * 4 :=
      Nat.mul_le_mul_left _ (Nat.le_of_lt_succ hlow)
    rw [if_pos hlow, if_pos (by omega), Nat.add_zero]
  · have : tenTo rest.length * 5 ≤ tenTo rest.length * digitOf digit :=
      Nat.mul_le_mul_left _ (not_lt.mp hlow)
    rw [if_neg hlow, if_neg (by omega), ite_self, Nat.add_zero]

/-- Digits are read as far as there are places, and the others round what is read. -/
theorem readFraction_eq_round (hs : scale + cs.length = maxScale)
    (hd : ∀ c ∈ digit :: rest, c.isDigit = true) (hroom : Nat.ofDigitChars 10 cs m + 1 < limit) :
    readFraction m scale ((cs ++ digit :: rest).map digitOf) = .ok (roundDiv .awayFromZero
      (Nat.ofDigitChars 10 (cs ++ digit :: rest) m) (tenTo (rest.length + 1)), maxScale) := by
  induction cs generalizing m scale with
  | nil =>
    obtain rfl : scale = maxScale := hs
    rw [List.nil_append, List.map_cons, readFraction, if_neg (by omega)]
    exact roundUp_eq hd hroom
  | cons c cs ih =>
    rw [Nat.ofDigitChars_cons] at hroom
    rw [List.length_cons] at hs
    have hlt : 10 * m + digitOf c < limit :=
      (le_ofDigitChars cs _).trans_lt (Nat.lt_of_succ_lt hroom)
    rw [List.cons_append, List.map_cons, readFraction, if_pos ⟨by omega, hlt⟩,
      Nat.ofDigitChars_cons]
    exact ih (by omega) hroom

/-- A decimal with more places than are read is rounded to as many as are, under its sign. -/
theorem exists_parse_text_round (h : maxScale < a.scale) :
    ∃ b, parse a.text = .ok b ∧ b.negative = a.negative ∧ b.scale = maxScale ∧
      b.magnitude = roundDiv .awayFromZero a.magnitude (tenTo (a.scale - maxScale)) := by
  obtain ⟨whole, fraction, hlength, hvalue, hplain⟩ := a.exists_plain
  have hdigits := hplain.digits
  obtain ⟨read, digit, rest, rfl, hread⟩ : ∃ read digit rest,
      fraction = read ++ digit :: rest ∧ read.length = maxScale := by
    obtain ⟨digit, rest, hrest⟩ : ∃ digit rest, fraction.drop maxScale = digit :: rest :=
      List.exists_cons_of_length_pos (by rw [List.length_drop]; omega)
    refine ⟨fraction.take maxScale, digit, rest, ?_, List.length_take_of_le (by omega)⟩
    rw [← hrest, List.take_append_drop]
  have hleft : a.scale - maxScale = rest.length + 1 := by
    rw [← hlength, List.length_append, List.length_cons, hread]
    omega
  rw [Nat.ofDigitChars_append] at hvalue
  have hmagnitude := a.magnitude_lt
  have hwhole : readWhole 0 (whole.map digitOf) = .ok (Nat.ofDigitChars 10 whole 0) :=
    readWhole_eq (((le_ofDigitChars _ _).trans_eq hvalue).trans_lt hmagnitude)
  generalize Nat.ofDigitChars 10 whole 0 = m at hvalue hwhole
  -- What is read stands at least one place before the end, so that there is room to round it.
  have hroom : Nat.ofDigitChars 10 read m + 1 < limit := by
    have hten : 10 * Nat.ofDigitChars 10 read m ≤ a.magnitude := by
      rw [← hvalue, Nat.ofDigitChars_append, Nat.ofDigitChars_cons]
      exact (Nat.le_add_right _ _).trans (le_ofDigitChars rest _)
    unfold limit at hmagnitude ⊢
    omega
  have hfraction := readFraction_eq_round (by rw [Nat.zero_add, hread])
    (fun c hc => hdigits c (by simp only [List.mem_append]; exact .inr (.inr hc))) hroom
  rw [hvalue, ← hleft] at hfraction
  have hall : readDigits whole (read ++ digit :: rest) = .ok
      (roundDiv .awayFromZero a.magnitude (tenTo (a.scale - maxScale)), maxScale) :=
    readDigits_eq_ok_iff.mpr ⟨m, hwhole, hfraction⟩
  rw [← a.trimChars_text] at hplain
  exact ⟨⟨a.negative, _, maxScale, readDigits_lt hall⟩,
    parse_eq_ok_iff.mpr ⟨whole, _, hplain, hall⟩, rfl, rfl, rfl⟩

/-- Every decimal is read from its text, with as many of its places as are read, and it is the
number that is left when the others are rounded away. -/
theorem exists_parse_text_eq (a : Decimal) : ∃ b, parse a.text = .ok b ∧
    b.scale = min a.scale maxScale ∧ b.toRat = (a.round .awayFromZero maxScale).toRat ∧
    (a.scale ≤ maxScale → b = a) := by
  rcases Nat.lt_or_ge maxScale a.scale with h | h
  · obtain ⟨b, hb, hneg, hscale, hmag⟩ := exists_parse_text_round h
    refine ⟨b, hb, by omega, ?_, fun hle => absurd h (not_lt.mpr hle)⟩
    have hround : (a.round .awayFromZero maxScale).scale = maxScale := by
      rw [Decimal.round, dif_neg (not_le.mpr h)]
    rw [toRat, toRat, hscale, hround, units_round h, units, hneg, hmag]
  · refine ⟨a, parse_text h, by omega, ?_, fun _ => rfl⟩
    rw [Decimal.round, dif_pos h]

/-- The numbers that arithmetic makes of numbers that have no more places than are read. -/
inductive Computed : Decimal → Prop
  | short {a : Decimal} (h : a.scale ≤ maxScale) : Computed a
  | neg {a : Decimal} (ha : Computed a) : Computed (-a)
  | abs {a : Decimal} (ha : Computed a) : Computed a.abs
  | round {a : Decimal} (ha : Computed a) (tie : Tie) (places : ℕ) : Computed (a.round tie places)
  | fixPlaces {a : Decimal} (ha : Computed a) (places : ℕ) : Computed (a.fixPlaces places)
  | add {a b c : Decimal} (ha : Computed a) (hb : Computed b) (h : a.add? b = some c) : Computed c
  | sub {a b c : Decimal} (ha : Computed a) (hb : Computed b) (h : a.sub? b = some c) : Computed c
  | mul {a b c : Decimal} (ha : Computed a) (hb : Computed b) (h : a.mul? b = some c) : Computed c
  | div {a b c : Decimal} (ha : Computed a) (hb : Computed b) (h : a.div? b = some c) : Computed c
  | floor {a c : Decimal} (ha : Computed a) (h : a.floor? = some c) : Computed c

theorem scale_readFraction_le {r : ℕ × ℕ} {digits : List ℕ} (hs : scale ≤ maxScale)
    (h : readFraction m scale digits = .ok r) : r.2 ≤ maxScale := by
  induction digits generalizing m scale with
  | nil =>
    cases h
    exact hs
  | cons digit digits ih =>
    rw [readFraction] at h
    split at h
    · rename_i hroom
      exact ih hroom.1 h
    · unfold roundUp at h
      repeat' split at h
      all_goals cases h
      · exact hs
      · exact hs
      · exact (Nat.sub_le _ _).trans hs

/-- No more places are read than there may be. -/
theorem scale_parse_le {raw : String} (h : parse raw = .ok a) : a.scale ≤ maxScale := by
  obtain ⟨whole, fraction, -, hr⟩ := parse_eq_ok_iff.mp h
  obtain ⟨m, -, hf⟩ := readDigits_eq_ok_iff.mp hr
  exact scale_readFraction_le (Nat.zero_le _) hf

/-- Every number that is read is such a number. -/
theorem Computed.of_parse {raw : String} (h : parse raw = .ok a) : a.Computed :=
  .short (scale_parse_le h)

end TaxReturn.Decimal
