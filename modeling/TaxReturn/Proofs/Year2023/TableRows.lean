import TaxReturn.Proofs.Year2023.TaxTable

/-! The rows of the Tax Table, one behind the other from five dollars on. They tile the incomes,
also where they get wider, and what is computed for an income is the middle of the row that holds
it. -/
namespace TaxReturn.Year2023

open Decimal

variable {x y : Decimal} {r w : ℚ} {i j k : ℕ}

/-- How wide the row is that holds an income. -/
def widthAt (r : ℚ) : ℕ := if r < 25 then 10 else if r < 3000 then 25 else 50

/-- Where the rows start: each of them where the one before it stops. -/
def edge : ℕ → ℕ
  | 0 => 5
  | k + 1 => edge k + widthAt (edge k)

/-- The row holds an income: it starts there or below, and stops above. -/
def InRow (k : ℕ) (r : ℚ) : Prop := edge k ≤ r ∧ r < edge (k + 1)

theorem widthAt_natCast (n : ℕ) :
    widthAt n = if n < 25 then 10 else if n < 3000 then 25 else 50 := by
  simp only [widthAt, Nat.cast_lt_ofNat]

theorem edge_succ (k : ℕ) : edge (k + 1) =
    edge k + if edge k < 25 then 10 else if edge k < 3000 then 25 else 50 := by
  rw [edge, widthAt_natCast]

/-- Behind the first two rows the edges are multiples of the width, and one of them is where the
width changes. -/
theorem edge_cases (k : ℕ) : edge k = 5 ∨ edge k = 15 ∨
    (25 ≤ edge k ∧ edge k < 3000 ∧ 25 ∣ edge k) ∨ 3000 ≤ edge k ∧ 50 ∣ edge k := by
  induction k with
  | zero => exact .inl rfl
  | succ k ih =>
    rw [edge_succ]
    split_ifs <;> omega

theorem edge_strictMono : StrictMono edge := by
  refine strictMono_nat_of_lt_succ fun k => ?_
  rw [edge_succ]
  split_ifs <;> omega

/-- Rows do not overlap. -/
theorem InRow.unique (hi : InRow i r) (hj : InRow j r) : i = j := by
  have hij : edge i < edge (j + 1) := by exact_mod_cast hi.1.trans_lt hj.2
  have hji : edge j < edge (i + 1) := by exact_mod_cast hj.1.trans_lt hi.2
  have := edge_strictMono.lt_iff_lt.mp hij
  have := edge_strictMono.lt_iff_lt.mp hji
  omega

/-- There is no gap between rows, and no last one. -/
theorem exists_inRow (h : 5 ≤ r) : ∃ k, InRow k r := by
  have hbelow : ∀ n, r < edge n → ∃ k, InRow k r := by
    intro n hn
    induction n with
    | zero =>
      norm_num [edge] at hn
      linarith
    | succ n ih =>
      by_cases hlt : r < edge n
      · exact ih hlt
      · exact ⟨n, not_lt.mp hlt, hn⟩
  obtain ⟨n, hn⟩ := exists_nat_gt r
  have hedge : (n : ℚ) ≤ edge n := by exact_mod_cast edge_strictMono.le_apply
  exact hbelow n (hn.trans_le hedge)

theorem startOf_eq (hw : 0 < w) {c : ℕ} (h : c * w ≤ r) (h' : r < c * w + w) :
    startOf w r = c * w := by
  have hlow := @le_startOf r w c hw (by exact_mod_cast h)
  have hnext := @startOf_add_le r w (c + 1) hw (by push_cast; linarith)
  push_cast at hlow hnext
  linarith

/-- All of a row is as wide as where it starts, and half of this from the start is its middle. -/
theorem InRow.middle (h : InRow k r) :
    edge (k + 1) = edge k + widthAt r ∧ middleOf r = edge k + (widthAt r : ℚ) / 2 := by
  obtain ⟨hlow, hhigh⟩ := h
  rcases edge_cases k with he | he | ⟨h25, h3000, c, hc⟩ | ⟨h3000, c, hc⟩
  · have hnext : edge (k + 1) = 15 := by rw [edge_succ, he]; rfl
    rw [hnext, Nat.cast_ofNat] at hhigh
    have hwidth : widthAt r = 10 := if_pos (by linarith)
    rw [hnext, hwidth, he, middleOf, if_pos hhigh]
    norm_num
  · have hnext : edge (k + 1) = 25 := by rw [edge_succ, he]; rfl
    rw [he, Nat.cast_ofNat] at hlow
    rw [hnext, Nat.cast_ofNat] at hhigh
    have hwidth : widthAt r = 10 := if_pos hhigh
    rw [hnext, hwidth, he, middleOf, if_neg (not_lt.mpr hlow), if_pos hhigh]
    norm_num
  · have hnext : edge (k + 1) = edge k + 25 := by
      rw [edge_succ, if_neg (not_lt.mpr h25), if_pos h3000]
    -- The last of these rows stops where the next width begins.
    have hend : edge k + 25 ≤ 3000 := by omega
    have hlow' : (25 : ℚ) ≤ r := le_trans (by exact_mod_cast h25) hlow
    have hhigh' : r < 3000 := (hnext ▸ hhigh).trans_le (by exact_mod_cast hend)
    have hwidth : widthAt r = 25 := by rw [widthAt, if_neg (not_lt.mpr hlow'), if_pos hhigh']
    rw [hnext, hc] at hhigh
    rw [hc] at hlow
    push_cast at hlow hhigh
    have hstart := @startOf_eq r 25 (by norm_num) c (by linarith) (by linarith)
    rw [hnext, hwidth, hc, middleOf, if_neg (by linarith), if_neg (not_lt.mpr hlow'),
      if_pos hhigh', hstart]
    push_cast
    exact ⟨rfl, by ring⟩
  · have hnext : edge (k + 1) = edge k + 50 := by
      rw [edge_succ, if_neg (by omega), if_neg (not_lt.mpr h3000)]
    have hlow' : (3000 : ℚ) ≤ r := le_trans (by exact_mod_cast h3000) hlow
    have hwidth : widthAt r = 50 := by
      rw [widthAt, if_neg (by linarith), if_neg (not_lt.mpr hlow')]
    rw [hnext, hc] at hhigh
    rw [hc] at hlow
    push_cast at hlow hhigh
    have hstart := @startOf_eq r 50 (by norm_num) c (by linarith) (by linarith)
    rw [hnext, hwidth, hc, middleOf, if_neg (by linarith), if_neg (by linarith),
      if_neg (not_lt.mpr hlow'), hstart]
    push_cast
    exact ⟨rfl, by ring⟩

/-- An income of five dollars or more, in dollars and cents, and not out of all proportion. -/
structure IsIncome (x : Decimal) : Prop where
  cents : WithinPlaces 2 x.toRat
  five_le : 5 ≤ x.toRat
  le : x.toRat ≤ 10 ^ 20

/-- What is computed for an income is in its row, half a width from either edge. -/
theorem InRow.exists_tableMidpoint (hx : IsIncome x) (h : InRow k x.toRat) :
    ∃ m, tableMidpoint x = some m ∧ InRow k m.toRat ∧
      m.toRat - (widthAt x.toRat : ℚ) / 2 = edge k ∧
      m.toRat + (widthAt x.toRat : ℚ) / 2 = edge (k + 1) := by
  obtain ⟨m, hm, hmx⟩ := exists_tableMidpoint_eq hx.cents hx.five_le hx.le
  obtain ⟨hwidth, hmiddle⟩ := h.middle
  rw [hmiddle] at hmx
  have hstart : m.toRat - (widthAt x.toRat : ℚ) / 2 = edge k := by
    rw [hmx]
    ring
  have hstop : m.toRat + (widthAt x.toRat : ℚ) / 2 = edge (k + 1) := by
    rw [hmx, hwidth]
    push_cast
    ring
  have hwide : (edge k : ℚ) < edge (k + 1) := by exact_mod_cast edge_strictMono k.lt_succ_self
  exact ⟨m, hm, ⟨by linarith, by linarith⟩, hstart, hstop⟩

/-- The first two rows apart, a row starts at a multiple of its width. -/
theorem InRow.width_dvd (h : InRow k r) : edge k = 5 ∨ edge k = 15 ∨ widthAt r ∣ edge k := by
  have hnext := edge_succ k
  rw [h.middle.1, Nat.add_left_cancel_iff] at hnext
  rw [hnext]
  rcases edge_cases k with he | he | ⟨h25, h3000, hdvd⟩ | ⟨h3000, hdvd⟩
  · exact .inl he
  · exact .inr (.inl he)
  · rw [if_neg (not_lt.mpr h25), if_pos h3000]
    exact .inr (.inr hdvd)
  · rw [if_neg (by omega), if_neg (not_lt.mpr h3000)]
    exact .inr (.inr hdvd)

/-- Each income from five dollars on is in exactly one row of the table, and the rows share their
edges. What is computed for an income is the middle of its row, half a width from either edge, so
that two incomes have the same middle exactly when they are in the same row. -/
theorem rows_tile :
    (∀ r : ℚ, 5 ≤ r → ∃! k, InRow k r) ∧
    (∀ x, IsIncome x → ∃ m w, tableMidpoint x = some m ∧
      w = (if x.toRat < 25 then 10 else if x.toRat < 3000 then 25 else 50) ∧
      m.toRat - w / 2 ≤ x.toRat ∧ x.toRat < m.toRat + w / 2 ∧
      (m.toRat - w / 2 = 5 ∨ m.toRat - w / 2 = 15 ∨ ∃ c : ℕ, m.toRat - w / 2 = c * w) ∧
      ∃ k, InRow k x.toRat ∧ m.toRat - w / 2 = edge k ∧ m.toRat + w / 2 = edge (k + 1)) ∧
    ∀ x y m n, IsIncome x → IsIncome y → tableMidpoint x = some m → tableMidpoint y = some n →
      (m.toRat = n.toRat ↔ ∃ k, InRow k x.toRat ∧ InRow k y.toRat) := by
  refine ⟨fun r hr => ?_, fun x hx => ?_, fun x y m n hx hy hm hn => ?_⟩
  · obtain ⟨k, hk⟩ := exists_inRow hr
    exact ⟨k, hk, fun j hj => hj.unique hk⟩
  · obtain ⟨k, hk⟩ := exists_inRow hx.five_le
    obtain ⟨m, hm, -, hstart, hstop⟩ := hk.exists_tableMidpoint hx
    refine ⟨m, widthAt x.toRat, hm, ?_, hstart.trans_le hk.1, hstop ▸ hk.2, ?_, k, hk, hstart,
      hstop⟩
    · rw [widthAt]
      split_ifs <;> norm_num
    · rw [hstart]
      rcases hk.width_dvd with he | he | ⟨c, hc⟩
      · exact .inl (by exact_mod_cast he)
      · exact .inr (.inl (by exact_mod_cast he))
      · refine .inr (.inr ⟨c, ?_⟩)
        rw [hc]
        push_cast
        ring
  · obtain ⟨i, hi⟩ := exists_inRow hx.five_le
    obtain ⟨j, hj⟩ := exists_inRow hy.five_le
    obtain ⟨m', hm', hmid, hstart, hstop⟩ := hi.exists_tableMidpoint hx
    obtain ⟨n', hn', hmid', hstart', hstop'⟩ := hj.exists_tableMidpoint hy
    cases hm.symm.trans hm'
    cases hn.symm.trans hn'
    constructor
    · intro he
      rw [he] at hmid
      obtain rfl := hmid.unique hmid'
      exact ⟨i, hi, hj⟩
    · rintro ⟨k, hx', hy'⟩
      obtain rfl := hi.unique hx'
      obtain rfl := hj.unique hy'
      linarith

/-- The last cent of the last narrow row, and where the first wide row starts. -/
theorem rows_tile_widening : IsIncome (.cents 299999) ∧ IsIncome (.ofNat 3000) ∧
    ∃ m n, tableMidpoint (.cents 299999) = some m ∧ tableMidpoint (.ofNat 3000) = some n ∧
      m.toRat = 5975 / 2 ∧ n.toRat = 3025 ∧
      ¬ ∃ k, InRow k (299999 / 100) ∧ InRow k 3000 := by
  have hx : (Decimal.cents 299999).toRat = 299999 / 100 := toRat_cents (by decide)
  have hy : (Decimal.ofNat 3000).toRat = 3000 := toRat_ofNat (by decide)
  have hlast : IsIncome (.cents 299999) :=
    ⟨withinPlaces_toRat (.cents 299999), by rw [hx]; norm_num, by rw [hx]; norm_num⟩
  have hfirst : IsIncome (.ofNat 3000) :=
    ⟨hy ▸ WithinPlaces.natCast 3000, by rw [hy]; norm_num, by rw [hy]; norm_num⟩
  obtain ⟨m, hm, hmx⟩ := exists_tableMidpoint_eq hlast.cents hlast.five_le hlast.le
  obtain ⟨n, hn, hny⟩ := exists_tableMidpoint_eq hfirst.cents hfirst.five_le hfirst.le
  have hm2987 : m.toRat = 5975 / 2 := by
    rw [hmx, hx]
    norm_num [middleOf, startOf]
  have hn3025 : n.toRat = 3025 := by
    rw [hny, hy]
    norm_num [middleOf, startOf]
  have hrows := rows_tile.2.2 _ _ m n hlast hfirst hm hn
  rw [hx, hy, hm2987, hn3025] at hrows
  exact ⟨hlast, hfirst, m, n, hm, hn, hm2987, hn3025, hrows.not.mp (by norm_num)⟩

end TaxReturn.Year2023
