import TaxReturn.Proofs.Decimal.Reading

/-! Numbers as they are kept, with a given number of places. What has more places goes to the
nearest number that has so few, and nothing else changes a number. It shows all its places unless
there is no room for the zeros at its end. -/
namespace TaxReturn.Decimal

variable {a : Decimal} {n places : ℕ} {x : ℚ}

/-- `y` is the multiple of a unit in the last place that is next to `x`. Any other multiple is
farther away, or as far while this one is even. -/
def NearestMultiple (places : ℕ) (x y : ℚ) : Prop :=
  ∃ n : ℤ, y = n / 10 ^ places ∧ ∀ m : ℤ, m ≠ n →
    |x - n / 10 ^ places| < |x - m / 10 ^ places| ∨
      |x - n / 10 ^ places| = |x - m / 10 ^ places| ∧ Even n

/-- How many digits a text shows behind its point. -/
def shownPlaces (text : String) : ℕ := ((Text.cut '.' text).map fun p => p.2.length).getD 0

theorem nearestMultiple_halfEven (places : ℕ) (x : ℚ) :
    NearestMultiple places x (halfEven (x * tenTo places) / tenTo places) := by
  have hten := tenTo_cast_pos places
  have hdist : ∀ m : ℤ, |x - m / 10 ^ places| = |x * tenTo places - m| / tenTo places := by
    intro m
    rw [← tenTo_cast, ← abs_of_pos hten, ← abs_div, abs_of_pos hten, sub_div,
      mul_div_cancel_right₀ _ hten.ne']
  refine ⟨halfEven (x * tenTo places), by rw [tenTo_cast], fun m hm => ?_⟩
  rw [hdist, hdist, div_lt_div_iff_of_pos_right hten, div_left_inj' hten.ne']
  exact (nearestEven_halfEven _).nearer hm

/-- Every place of a decimal is shown. -/
theorem shownPlaces_text (a : Decimal) : shownPlaces a.text = a.scale := by
  obtain ⟨whole, fraction, -, hlength, hdigits, -, he⟩ := a.exists_digits
  have hpoint : '.' ∉ (if a.negative then ['-'] else []) ++ whole := by
    rw [List.mem_append, not_or]
    refine ⟨?_, point_notMem hdigits⟩
    split <;> simp
  rw [shownPlaces, Text.cut, text, String.toList_ofList, he, ← hlength]
  cases fraction with
  | nil =>
    rw [List.isEmpty_nil, if_pos rfl, List.append_nil, Text.cutChars_eq_none_iff.mpr hpoint]
    rfl
  | cons c fraction =>
    rw [List.isEmpty_cons, if_neg Bool.false_ne_true, Text.cutChars_append hpoint]
    exact String.length_ofList

theorem scale_pad_eq_iff : (a.pad n).scale = a.scale + n ↔ a.magnitude * tenTo n < limit := by
  induction n generalizing a with
  | zero => exact iff_of_true rfl (by simpa [tenTo] using a.magnitude_lt)
  | succ n ih =>
    have hpos := tenTo_pos n
    rw [pad, tenTo_succ, ← Nat.mul_assoc]
    split
    · rename_i hroom
      have hrest := ih (a := ⟨a.negative, a.magnitude * 10, a.scale + 1, hroom⟩)
      dsimp only at hrest
      omega
    · rename_i hfull
      have : a.magnitude * 10 ≤ a.magnitude * 10 * tenTo n := Nat.le_mul_of_pos_right _ hpos
      omega

/-- A number is extended to as many places as it is meant to have if there is room for them. -/
theorem scale_extend_eq_iff (hs : a.scale ≤ places) (hp : places ≤ maxScale) :
    (a.extend places).scale = places ↔ a.magnitude * tenTo (places - a.scale) < limit := by
  unfold extend
  split
  · rename_i hge
    have hroom := a.magnitude_lt
    rw [Nat.sub_eq_zero_of_le hge]
    exact iff_of_true (by omega) (by simpa [tenTo] using hroom)
  split
  · rename_i hz
    refine iff_of_true (min_eq_left hp) ?_
    rw [hz, Nat.zero_mul]
    exact limit_pos
  · rw [← scale_pad_eq_iff, Nat.add_sub_cancel' hs]

/-- There is room for the places if the number in units of the last one fits into its bits. -/
theorem room_iff (hs : a.scale ≤ places) : a.magnitude * tenTo (places - a.scale) < limit ↔
    |a.toRat| * 10 ^ places ≤ 2 ^ 96 - 1 := by
  have hunits : |a.toRat| * 10 ^ places = (a.magnitude * tenTo (places - a.scale) : ℕ) := by
    have hten : (tenTo places : ℚ) = tenTo (places - a.scale) * tenTo a.scale := by
      rw [← Nat.cast_mul, ← tenTo_add, Nat.sub_add_cancel hs]
    rw [abs_toRat, ← tenTo_cast, hten, Nat.cast_mul, div_mul_eq_mul_div, ← mul_assoc,
      mul_div_cancel_right₀ _ (tenTo_cast_pos _).ne']
  have hlast : (2 : ℚ) ^ 96 - 1 = (limit - 1 : ℕ) := by norm_num [limit]
  have hpos := limit_pos
  rw [hunits, hlast, Nat.cast_le]
  omega

theorem scale_fixPlaces_eq_iff (hp : places ≤ maxScale) : (a.fixPlaces places).scale = places ↔
    |(a.fixPlaces places).toRat| * 10 ^ places ≤ 2 ^ 96 - 1 := by
  have hs := a.scale_round_le .toEven places
  rw [fixPlaces, scale_extend_eq_iff hs hp, toRat_extend, room_iff hs]

/-- A number is kept as the nearest one with so many places, and of two that are as near as the
even one, if it has more places, and as itself if it has no more of them. So the order of numbers
is kept. All these places are shown of what is kept if and only if there is room for them. -/
theorem fixPlaces_rounds_half_even (hp : places ≤ 28) :
    (∀ d : Decimal,
      (places < d.scale → NearestMultiple places d.toRat (d.fixPlaces places).toRat) ∧
      (d.scale ≤ places → (d.fixPlaces places).toRat = d.toRat) ∧
      (shownPlaces (d.fixPlaces places).text = places ↔
        |(d.fixPlaces places).toRat| * 10 ^ places ≤ 2 ^ 96 - 1)) ∧
    ∀ a b : Decimal, a ≤ b → a.fixPlaces places ≤ b.fixPlaces places := by
  constructor
  · intro d
    refine ⟨fun _ => ?_, fun hs => ?_, ?_⟩
    · rw [toRat_fixPlaces]
      exact nearestMultiple_halfEven places d.toRat
    · have hround : d.round .toEven places = d := dif_pos hs
      rw [fixPlaces, toRat_extend, hround]
    · rw [shownPlaces_text]
      exact scale_fixPlaces_eq_iff hp
  · intro a b h
    have hten := tenTo_cast_pos places
    rw [le_iff_toRat] at h ⊢
    rw [toRat_fixPlaces, toRat_fixPlaces, div_le_div_iff_of_pos_right hten]
    exact_mod_cast halfEven_mono (mul_le_mul_of_nonneg_right h hten.le)

/-- A tie below zero goes to the even multiple, and the largest number has no room for places. -/
theorem fixPlaces_rounds_half_even_cents :
    NearestMultiple 2 (-(1 / 8)) (-(3 / 25)) ∧
    shownPlaces ((ofNat (limit - 1)).fixPlaces 2).text ≠ 2 ∧
    (⟨true, 135, 3, by decide⟩ : Decimal).fixPlaces 2 ≤ fixPlaces ⟨true, 125, 3, by decide⟩ 2 := by
  obtain ⟨hexact, hmono⟩ := fixPlaces_rounds_half_even (show 2 ≤ 28 by decide)
  refine ⟨?_, ?_, hmono _ _ (by decide)⟩
  · have htie := (hexact ⟨true, 125, 3, by decide⟩).1 (by decide)
    have hkept : (⟨true, 125, 3, by decide⟩ : Decimal).fixPlaces 2 = ⟨true, 12, 2, by decide⟩ := by
      decide
    rw [hkept, toRat_mk, toRat_mk] at htie
    norm_num [tenTo] at htie
    exact htie
  · have hkept : (ofNat (limit - 1)).fixPlaces 2 = ofNat (limit - 1) := by decide
    rw [Ne, (hexact (ofNat (limit - 1))).2.2, hkept, toRat_ofNat, limit]
    norm_num

end TaxReturn.Decimal
