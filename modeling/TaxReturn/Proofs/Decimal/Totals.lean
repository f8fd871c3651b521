import TaxReturn.Proofs.Decimal.Alike
import TaxReturn.Proofs.Kinds
import Mathlib

/-! Totals of amounts that have the same places. As long as there is room for all the figures a
total is exact, and so the order in which it is taken leaves no trace, except in the sign of a
zero. -/
namespace TaxReturn.Decimal

variable {P : Prop} {a b c total : Decimal} {amounts amounts' : List Decimal} {scale m n d : ℕ}

/-- The sum of amounts, on top of a total. -/
def sum? (total : Decimal) : List Decimal → Option Decimal
  | [] => some total
  | amount :: rest => (total.add? amount).bind fun total => sum? total rest

/-- What is read as an amount: no more than there may be of it. -/
def IsAmount (a : Decimal) : Prop := a.magnitude ≤ maxAmount * tenTo a.scale

theorem lt_iff_units : a < b ↔ a.units * tenTo b.scale < b.units * tenTo a.scale :=
  compare_lt_iff_lt

theorem le_iff_units : a ≤ b ↔ a.units * tenTo b.scale ≤ b.units * tenTo a.scale :=
  Ordering.isLE_iff_ne_gt.trans compare_le_iff_le

/-- The sign and the size of a decimal are those of its units, unless it is zero. -/
theorem alike_of_units (hu : b.units = a.units) (hs : b.scale = a.scale)
    (ha : a.IsNegativeZero → P) (hb : b.IsNegativeZero → P) : a.Alike P b := by
  have hm : b.magnitude = a.magnitude := by rw [← natAbs_units, hu, natAbs_units]
  obtain ⟨negative, magnitude, scale, hlt⟩ := a
  obtain ⟨negative', magnitude', scale', hlt'⟩ := b
  simp only at hm hs
  subst hm hs
  -- The units of a zero say nothing about its sign. Those of any other decimal do.
  by_cases hz : magnitude' = 0
  · subst hz
    rcases negative with _ | _ <;> rcases negative' with _ | _
    · exact .same
    · exact .zero (hb ⟨rfl, rfl⟩) rfl rfl rfl
    · exact .zero (ha ⟨rfl, rfl⟩) rfl rfl rfl
    · exact .same
  · have hn : negative' = negative := by
      rcases negative with _ | _ <;> rcases negative' with _ | _ <;> simp [units] at hu ⊢ <;> omega
    subst hn
    exact .same

theorem fit_one {negative : Bool} (h : n < limit) (places : ℕ) :
    fit negative n 1 places = some ⟨negative, n, places, h⟩ := by
  have hm : roundDiv .toEven n 1 = n := by simp [roundDiv, Nat.mod_one]
  cases places <;> simp [fit, hm, h]

theorem units_mk {u : ℤ} (h : u.natAbs < limit) :
    units ⟨decide (u < 0), u.natAbs, scale, h⟩ = u := by
  by_cases hu : u < 0
  · simp only [units, hu, decide_true, if_true]
    omega
  · simp only [units, hu, decide_false, Bool.false_eq_true, if_false]
    omega

/-- The sum of two amounts with the same places has these places too and is exact. -/
theorem exists_add? (hs : b.scale = a.scale) (hfit : a.magnitude + b.magnitude < limit) :
    ∃ c, a.add? b = some c ∧ c.scale = a.scale ∧ c.units = a.units + b.units ∧
      (c.IsNegativeZero → a.IsNegativeZero ∨ b.IsNegativeZero) := by
  by_cases ha : a.isZero
  · refine ⟨b, by rw [add?, if_pos ha], hs, ?_, .inr⟩
    rw [units_eq_zero (isZero_iff.mp ha), zero_add]
  · by_cases hb : b.isZero
    · refine ⟨a, by rw [add?, if_neg ha, if_pos hb], rfl, ?_, .inl⟩
      rw [units_eq_zero (isZero_iff.mp hb), add_zero]
    · have hsum : (a.units + b.units).natAbs < limit := by
        have := Int.natAbs_add_le a.units b.units
        rw [natAbs_units, natAbs_units] at this
        omega
      refine ⟨⟨decide (a.units + b.units < 0), _, a.scale, hsum⟩, ?_, rfl, ?_, ?_⟩
      · have hone : ((tenTo 0 : ℕ) : ℤ) = 1 := rfl
        have hshort : a.alignsShort b := by simp [alignsShort, hs]
        rw [add?, if_neg ha, if_neg hb]
        simp only [hs, max_self, Nat.sub_self, hone, mul_one, hshort, if_true]
        exact fit_one hsum a.scale
      · exact units_mk hsum
      · rintro ⟨hneg, hzero⟩
        simp only [decide_eq_true_eq] at hneg hzero
        omega

theorem magnitude_le_of_units (h : c.units = a.units + b.units) :
    c.magnitude ≤ a.magnitude + b.magnitude := by
  have := Int.natAbs_add_le a.units b.units
  rwa [← h, natAbs_units, natAbs_units, natAbs_units] at this

/-- So is a total, as long as there is room for all the figures. -/
theorem exists_sum? (hs : ∀ amount ∈ amounts, amount.scale = total.scale)
    (hfit : total.magnitude + (amounts.map magnitude).sum < limit) :
    ∃ c, sum? total amounts = some c ∧ c.scale = total.scale ∧
      c.units = total.units + (amounts.map units).sum ∧
      (c.IsNegativeZero → total.IsNegativeZero ∨ ∃ amount ∈ amounts, amount.IsNegativeZero) := by
  induction amounts generalizing total with
  | nil => exact ⟨total, rfl, rfl, by simp, .inl⟩
  | cons amount rest ih =>
    simp only [List.map_cons, List.sum_cons] at hfit
    obtain ⟨t, ht, hts, htu, htn⟩ := exists_add? (hs amount List.mem_cons_self) (by omega)
    have hmag := magnitude_le_of_units htu
    have hrest : ∀ other ∈ rest, other.scale = t.scale := fun other ho =>
      (hs other (List.mem_cons_of_mem _ ho)).trans hts.symm
    obtain ⟨c, hc, hcs, hcu, hcn⟩ := ih hrest (by omega)
    refine ⟨c, by rw [sum?, ht, Option.bind_some, hc], hcs.trans hts, ?_, fun hz => ?_⟩
    · simp only [List.map_cons, List.sum_cons]
      omega
    · rcases hcn hz with hz | ⟨other, ho, hz⟩
      · rcases htn hz with hz | hz
        · exact .inl hz
        · exact .inr ⟨amount, List.mem_cons_self, hz⟩
      · exact .inr ⟨other, List.mem_cons_of_mem _ ho, hz⟩

/-- A total from nothing takes its places from the amounts, if there are any. -/
theorem exists_total (hs : ∀ amount ∈ amounts, amount.scale = scale)
    (hfit : (amounts.map magnitude).sum < limit) :
    ∃ c, sum? 0 amounts = some c ∧ c.scale = (if amounts = [] then 0 else scale) ∧
      c.units = (amounts.map units).sum ∧
      (c.IsNegativeZero → ∃ amount ∈ amounts, amount.IsNegativeZero) := by
  cases amounts with
  | nil => exact ⟨0, rfl, rfl, rfl, fun h => absurd h.1 (by decide)⟩
  | cons amount rest =>
    -- Added to nothing the first amount stays as it is, and so it sets the places.
    have hstart : sum? 0 (amount :: rest) = sum? amount rest := rfl
    have hamount := hs amount List.mem_cons_self
    simp only [List.map_cons, List.sum_cons] at hfit
    have hrest : ∀ other ∈ rest, other.scale = amount.scale := fun other ho =>
      (hs other (List.mem_cons_of_mem _ ho)).trans hamount.symm
    obtain ⟨c, hc, hcs, hcu, hcn⟩ := exists_sum? hrest hfit
    refine ⟨c, hstart.trans hc, by simpa [hamount] using hcs, by simpa using hcu, fun hz => ?_⟩
    rcases hcn hz with hz | ⟨other, ho, hz⟩
    · exact ⟨amount, List.mem_cons_self, hz⟩
    · exact ⟨other, List.mem_cons_of_mem _ ho, hz⟩

/-- The order of the amounts leaves no trace in a total, except in the sign of a zero, which comes
from a negative zero among them. -/
theorem sum?_perm (h : amounts'.Perm amounts) (hs : ∀ amount ∈ amounts, amount.scale = scale)
    (hfit : (amounts.map magnitude).sum < limit)
    (hz : ∀ amount ∈ amounts, amount.IsNegativeZero → P) :
    ∃ c c', sum? 0 amounts = some c ∧ sum? 0 amounts' = some c' ∧ c.Alike P c' := by
  obtain ⟨c, hc, hcs, hcu, hcn⟩ := exists_total hs hfit
  have hs' : ∀ amount ∈ amounts', amount.scale = scale :=
    fun amount ha => hs amount (h.mem_iff.mp ha)
  have hfit' : (amounts'.map magnitude).sum < limit := by
    rwa [(h.map magnitude).sum_eq]
  obtain ⟨c', hc', hcs', hcu', hcn'⟩ := exists_total hs' hfit'
  refine ⟨c, c', hc, hc', alike_of_units ?_ ?_ (fun hneg => ?_) fun hneg => ?_⟩
  · rw [hcu, hcu', (h.map units).sum_eq]
  · have hnil : amounts' = [] ↔ amounts = [] := by
      constructor <;> rintro rfl
      · exact h.symm.eq_nil
      · exact h.eq_nil
    simp only [hcs, hcs', hnil]
  · obtain ⟨amount, ha, hneg⟩ := hcn hneg
    exact hz amount ha hneg
  · obtain ⟨amount, ha, hneg⟩ := hcn' hneg
    exact hz amount (h.mem_iff.mp ha) hneg

theorem tenTo_add (m n : ℕ) : tenTo (m + n) = tenTo m * tenTo n := Nat.pow_add 10 m n

/-- Nothing is rounded in a quotient that comes out even. -/
theorem roundDiv_mul {tie : Tie} (m : ℕ) (hd : 0 < d) : roundDiv tie (m * d) d = m := by
  simp [roundDiv, Nat.mul_mod_left, Nat.mul_div_cancel _ hd, hd]

theorem roundDiv_le_of_le_mul {tie : Tie} (hd : 0 < d) (h : n ≤ m * d) : roundDiv tie n d ≤ m := by
  rcases Nat.lt_or_ge (n / d) m with hlt | hge
  · have := roundDiv_le_succ tie n d
    omega
  · have hn : n = m * d := Nat.le_antisymm h (Nat.mul_le_of_le_div _ _ _ hge)
    exact hn ▸ (roundDiv_mul m hd).le

/-- Where there is room for zeros they are appended. -/
theorem pad_eq (h : a.magnitude * tenTo n < limit) :
    (a.pad n).scale = a.scale + n ∧ (a.pad n).units = a.units * tenTo n := by
  induction n generalizing a with
  | zero => exact ⟨rfl, (mul_one _).symm⟩
  | succ n ih =>
    rw [tenTo_succ, ← mul_assoc] at h
    have hpos := tenTo_pos n
    have hroom : a.magnitude * 10 < limit := lt_of_le_of_lt (Nat.le_mul_of_pos_right _ hpos) h
    rw [pad, dif_pos hroom]
    obtain ⟨hs, hu⟩ := ih (a := ⟨a.negative, a.magnitude * 10, a.scale + 1, hroom⟩) h
    have hten : units ⟨a.negative, a.magnitude * 10, a.scale + 1, hroom⟩ = a.units * 10 := by
      unfold units
      dsimp only
      split <;> push_cast <;> ring
    refine ⟨hs.trans ?_, ?_⟩
    · change a.scale + 1 + n = a.scale + (n + 1)
      omega
    · rw [hu, hten, tenTo_succ]
      push_cast
      ring

theorem fixPlaces_of_scale (h : a.scale = n) : a.fixPlaces n = a := by
  have hround : a.round .toEven n = a := dif_pos h.le
  rw [fixPlaces, hround, extend, if_pos h.ge]

theorem isAmount_iff_not_lt : a.IsAmount ↔ ¬ ofNat maxAmount < a.abs := by
  have hunits : a.abs.units = a.magnitude := rfl
  have hlimit : (ofNat maxAmount).units = maxAmount := rfl
  have hscale : a.abs.scale = a.scale := rfl
  have hone : tenTo (ofNat maxAmount).scale = 1 := rfl
  rw [lt_iff_units, hunits, hlimit, hone, hscale, not_lt, IsAmount, Nat.cast_one, mul_one]
  exact_mod_cast Iff.rfl

/-- An amount is any number that is read and is not out of range. -/
theorem parseAmount_eq_ok_iff {raw : String} :
    parseAmount raw = .ok a ↔ parse raw = .ok a ∧ a.IsAmount := by
  unfold parseAmount
  cases parse raw with
  | error fault => simp
  | ok d =>
    constructor
    · intro h
      dsimp only at h
      split at h
      · cases h
      · rename_i hin
        cases h
        exact ⟨rfl, isAmount_iff_not_lt.mpr hin⟩
    · rintro ⟨hok, ha⟩
      cases hok
      exact if_neg (isAmount_iff_not_lt.mp ha)

end Decimal

/-- The numbers that inputs give are amounts. -/
theorem InputSpec.isAmount_of_parse {spec : InputSpec} {raw : String} {d : Decimal}
    (h : spec.parse raw = .ok (.number d)) : d.IsAmount := by
  have hreads := readsAs_of_parse h
  generalize spec.kind = kind at hreads
  cases hreads with
  | noAmount => exact Nat.zero_le _
  | amount he hd => exact (Decimal.parseAmount_eq_ok_iff.mp hd).2

end TaxReturn
