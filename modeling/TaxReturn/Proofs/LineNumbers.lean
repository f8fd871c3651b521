import TaxReturn.Proofs.Decimal.Reading
import TaxReturn.Proofs.Names
import Mathlib.Data.List.SplitBy

/-! Line numbers in names. Digits that stand between others than digits are cut out as one run,
whatever comes before and behind them, and the run counts as the number that it writes, however
long. So names that are the same up to a number stand as their numbers do. -/
namespace TaxReturn.Name

variable {a b ds es : List Char} {c d : Char} {before digits digits' after after' name : String}

theorem Class.of_eq_digit_iff : Class.of c = .digit ↔ c.isDigit = true := by
  unfold Class.of
  split
  · simp [*]
  · split <;> simp [*]

/-- The number that a run of digits writes. -/
def numeral (ds : List Char) : ℕ := Nat.ofDigitChars 10 ds 0

namespace Run

/-- A text whose parts meet where the class of the characters changes is read part by part. -/
theorem ofChars_append (h : ∀ x ∈ a.getLast?, ∀ y ∈ b.head?, Class.of x ≠ Class.of y) :
    ofChars (a ++ b) = ofChars a ++ ofChars b := by
  have hcut : ∀ x ∈ a.getLast?, ∀ y ∈ b.head?, (Class.of x == Class.of y) = false :=
    fun x hx y hy => beq_false_of_ne (h x hx y hy)
  rw [ofChars, List.splitBy_append hcut, List.filterMap_append, ofChars, ofChars]

/-- Digits are one run. -/
theorem ofChars_digits (hne : ds ≠ []) (hd : ∀ x ∈ ds, x.isDigit = true) :
    ofChars ds = [number (numeral ds)] := by
  have hclass : ∀ x ∈ ds, Class.of x = .digit := fun x hx => Class.of_eq_digit_iff.mpr (hd x hx)
  have hchain : ds.IsChain fun x y => (Class.of x == Class.of y) = true := by
    refine List.Pairwise.isChain (List.pairwise_of_forall_mem_list fun x hx y hy => ?_)
    rw [hclass x hx, hclass y hy]
    rfl
  rw [ofChars, List.splitBy_of_isChain hne hchain]
  obtain ⟨x, rest, rfl⟩ := List.exists_cons_of_ne_nil hne
  have hchunk : ofChunk (x :: rest) = some (number (numeral (x :: rest))) := by
    rw [ofChunk, hclass x List.mem_cons_self]
    rfl
  rw [List.filterMap_cons_some hchunk, List.filterMap_nil]

/-- Digits between others than digits are a run of their own. -/
theorem ofChars_between (hne : ds ≠ []) (hd : ∀ x ∈ ds, x.isDigit = true)
    (ha : ∀ x ∈ a.getLast?, x.isDigit = false) (hb : ∀ x ∈ b.head?, x.isDigit = false) :
    ofChars (a ++ (ds ++ b)) = ofChars a ++ number (numeral ds) :: ofChars b := by
  have hclass : ∀ x y : Char, x.isDigit = true → y.isDigit = false → Class.of x ≠ Class.of y := by
    intro x y hx hy he
    rw [Class.of_eq_digit_iff.mpr hx, eq_comm, Class.of_eq_digit_iff, hy] at he
    cases he
  have hbehind : ofChars (ds ++ b) = number (numeral ds) :: ofChars b := by
    rw [ofChars_append fun x hx y hy =>
      hclass x y (hd x (List.mem_of_mem_getLast? hx)) (hb y hy), ofChars_digits hne hd]
    rfl
  rw [ofChars_append, hbehind]
  intro x hx y hy
  rw [List.head?_append_of_ne_nil _ hne] at hy
  exact (hclass y x (hd y (List.mem_of_mem_head? hy)) (ha x hx)).symm

/-- Of two lists of runs that start alike the first different run decides. -/
theorem compare_append_lt {l xs ys : List Run} {x y : Run} (h : Ord.compare x y = .lt) :
    Ord.compare (l ++ x :: xs) (l ++ y :: ys) = .lt := by
  induction l with
  | nil =>
    rw [List.nil_append, List.nil_append, List.compare_cons_cons, h]
    rfl
  | cons run l ih =>
    rw [List.cons_append, List.cons_append, List.compare_cons_cons, Std.ReflOrd.compare_self, ih]
    rfl

end Run

section numerals

variable (hd : ∀ x ∈ ds, x.isDigit = true) (he : ∀ x ∈ es, x.isDigit = true)

/-- The digits that count: leading zeros do not. -/
def significant (ds : List Char) : List Char := ds.dropWhile (· == '0')

/-- The digits write the smaller number: fewer of them count, or as many, and the first that are
different decide. -/
def WritesLess (ds es : List Char) : Prop :=
  (significant ds).length < (significant es).length ∨
    (significant ds).length = (significant es).length ∧ significant ds < significant es

theorem numeral_cons (d : Char) (ds : List Char) : numeral (d :: ds) =
    Decimal.tenTo ds.length * Decimal.digitOf d + numeral ds := by
  rw [numeral, Decimal.ofDigitChars_cons_eq, Nat.mul_zero, Nat.zero_add]
  rfl

theorem numeral_significant (ds : List Char) : numeral (significant ds) = numeral ds := by
  induction ds with
  | nil => rfl
  | cons x ds ih =>
    by_cases hx : x = '0'
    · subst hx
      have hzero : Decimal.digitOf '0' = 0 := rfl
      rw [numeral_cons, hzero, Nat.mul_zero, Nat.zero_add, ← ih]
      rfl
    · have hkeep : significant (x :: ds) = x :: ds := by simp [significant, hx]
      rw [hkeep]

/-- Digits stand in the order of what they write. -/
theorem digitOf_lt_iff (hc : c.isDigit = true) : Decimal.digitOf c < Decimal.digitOf d ↔ c < d := by
  simp only [Char.isDigit, Bool.and_eq_true, decide_eq_true_eq, UInt32.le_iff_toNat_le] at hc
  change 48 ≤ c.toNat ∧ c.toNat ≤ 57 at hc
  change c.toNat - 48 < d.toNat - 48 ↔ c.toNat < d.toNat
  omega

include hd

theorem numeral_lt : numeral ds < Decimal.tenTo ds.length := Decimal.ofDigitChars_lt hd

theorem significant_digits : ∀ x ∈ significant ds, x.isDigit = true :=
  fun x hx => hd x ((List.dropWhile_sublist _).mem hx)

/-- The first digit that counts is worth its place. -/
theorem le_numeral_of_significant {n : ℕ} (hn : n < (significant ds).length) :
    Decimal.tenTo n ≤ numeral ds := by
  obtain ⟨x, rest, hx⟩ := List.exists_cons_of_length_pos (Nat.zero_lt_of_lt hn)
  have hdigit : x.isDigit = true := significant_digits hd x (hx ▸ List.mem_cons_self)
  have hnonzero : x ≠ '0' := by
    have hhead := List.head?_dropWhile_not (· == '0') ds
    rw [← significant, hx] at hhead
    simpa using hhead
  have hone : Decimal.digitOf '0' < Decimal.digitOf x := by
    rw [digitOf_lt_iff rfl]
    simp only [Char.isDigit, Bool.and_eq_true, decide_eq_true_eq] at hdigit
    exact lt_of_le_of_ne hdigit.1 hnonzero.symm
  rw [hx, List.length_cons] at hn
  calc Decimal.tenTo n ≤ Decimal.tenTo rest.length := Nat.pow_le_pow_right (by decide) (by omega)
    _ ≤ Decimal.tenTo rest.length * Decimal.digitOf x := Nat.le_mul_of_pos_right _ hone
    _ ≤ numeral (x :: rest) := numeral_cons x rest ▸ Nat.le_add_right _ _
    _ = numeral ds := hx ▸ numeral_significant ds

theorem numeral_cons_lt (hl : ds.length = es.length)
    (h : Decimal.digitOf c < Decimal.digitOf d) : numeral (c :: ds) < numeral (d :: es) := by
  have hlow := numeral_lt hd
  rw [numeral_cons, numeral_cons, ← hl]
  calc Decimal.tenTo ds.length * Decimal.digitOf c + numeral ds
      < Decimal.tenTo ds.length * (Decimal.digitOf c + 1) := by
        rw [Nat.mul_succ]
        omega
    _ ≤ Decimal.tenTo ds.length * Decimal.digitOf d := Nat.mul_le_mul_left _ h
    _ ≤ Decimal.tenTo ds.length * Decimal.digitOf d + numeral es := Nat.le_add_right _ _

include he

/-- Of as many digits the first that are different decide. -/
theorem numeral_lt_iff_of_length (hl : ds.length = es.length) :
    numeral ds < numeral es ↔ ds < es := by
  induction ds generalizing es with
  | nil =>
    obtain rfl : es = [] := List.length_eq_zero_iff.mp hl.symm
    simp
  | cons x ds ih =>
    cases es with
    | nil => cases hl
    | cons y es =>
      obtain ⟨hx, hds⟩ := List.forall_mem_cons.mp hd
      obtain ⟨hy, hes⟩ := List.forall_mem_cons.mp he
      have hlength : ds.length = es.length := Nat.succ.inj hl
      rw [List.cons_lt_cons_iff, ← ih hds hes hlength]
      rcases lt_trichotomy x y with hlt | rfl | hgt
      · have hless := numeral_cons_lt hds hlength ((digitOf_lt_iff hx).mpr hlt)
        exact iff_of_true hless (.inl hlt)
      · rw [numeral_cons, numeral_cons, hlength]
        simp
      · have hmore := numeral_cons_lt hes hlength.symm ((digitOf_lt_iff hy).mpr hgt)
        exact iff_of_false hmore.not_gt (by simp [hgt.not_gt, hgt.ne'])

/-- So numbers are compared without being computed. -/
theorem numeral_lt_iff : numeral ds < numeral es ↔ WritesLess ds es := by
  have hs := significant_digits hd
  have hs' := significant_digits he
  unfold WritesLess
  rw [← numeral_significant ds, ← numeral_significant es]
  rcases lt_trichotomy (significant ds).length (significant es).length with hlt | heq | hgt
  · have hless : numeral (significant ds) < numeral (significant es) :=
      (numeral_lt hs).trans_le (numeral_significant es ▸ le_numeral_of_significant he hlt)
    exact iff_of_true hless (.inl hlt)
  · rw [numeral_lt_iff_of_length hs hs' heq]
    simp [heq]
  · have hmore : numeral (significant es) < numeral (significant ds) :=
      (numeral_lt hs').trans_le (numeral_significant ds ▸ le_numeral_of_significant hd hgt)
    exact iff_of_false hmore.not_gt (by simp [hgt.not_gt, hgt.ne'])

end numerals

/-- Digits in a name: what stands before them does not end in a digit, and what stands behind them
does not start with one. -/
structure Stands (before digits after : String) : Prop where
  nonempty : digits ≠ ""
  digits : ∀ c ∈ digits.toList, c.isDigit = true
  before : ∀ c ∈ before.toList.getLast?, c.isDigit = false
  after : ∀ c ∈ after.toList.head?, c.isDigit = false

/-- The digits are a run behind those of what stands before them. A point there has ended the form
already, and without any point there is none. -/
theorem Stands.runs (h : Stands before digits after)
    (hp : '.' ∈ before.toList ∨ '.' ∉ (before ++ after).toList) :
    formRuns (before ++ digits ++ after) = formRuns before ∧
      localRuns (before ++ digits ++ after) =
        localRuns before ++ .number (numeral digits.toList) :: Run.ofChars after.toList := by
  have hne : digits.toList ≠ [] := by simpa using h.nonempty
  rcases hp with hp | hp
  · obtain ⟨⟨form, rest⟩, hs⟩ : ∃ p, split before = some p := by
      rw [← Option.isSome_iff_exists, Option.isSome_iff_ne_none, ne_eq, split_eq_none_iff, not_not]
      exact hp
    obtain ⟨rfl, hform⟩ := split_eq_some_iff.mp hs
    have hrest : ∀ c ∈ rest.toList.getLast?, c.isDigit = false := by
      intro c hc
      refine h.before c ?_
      rw [String.toList_append]
      exact List.mem_getLast?_append_of_mem_getLast? hc
    have hall :
        form ++ "." ++ rest ++ digits ++ after = form ++ "." ++ (rest ++ digits ++ after) := by
      simp [String.append_assoc]
    rw [formRuns, localRuns, hall, split_scoped hform, formRuns, localRuns, hs]
    refine ⟨rfl, ?_⟩
    simp only [String.toList_append, List.append_assoc]
    exact Run.ofChars_between hne h.digits hrest h.after
  · have hdigits : '.' ∉ digits.toList := fun hm => by
      have := h.digits _ hm
      simp at this
    rw [String.toList_append, List.mem_append, not_or] at hp
    have hwhole : split (before ++ digits ++ after) = none := by
      rw [split_eq_none_iff]
      simp [hp, hdigits]
    rw [formRuns, localRuns, hwhole, formRuns, localRuns, split_eq_none_iff.mpr hp.1]
    refine ⟨rfl, ?_⟩
    simp only [String.toList_append, List.append_assoc]
    exact Run.ofChars_between hne h.digits h.before h.after

/-- Names that are the same up to a number stand as their numbers do, whatever is behind them. -/
theorem order_of_numbers (h : Stands before digits after) (h' : Stands before digits' after')
    (hp : '.' ∈ before.toList ∨ '.' ∉ (before ++ after ++ after').toList) :
    (numeral digits.toList < numeral digits'.toList ↔ WritesLess digits.toList digits'.toList) ∧
    (numeral digits.toList < numeral digits'.toList →
      order (before ++ digits ++ after) (before ++ digits' ++ after') = .lt ∧
      order (before ++ digits' ++ after') (before ++ digits ++ after) = .gt) := by
  refine ⟨numeral_lt_iff h.digits h'.digits, fun hlt => ?_⟩
  have hlt' : Ord.compare (Run.number (numeral digits.toList)) (.number (numeral digits'.toList)) =
      .lt := Nat.compare_eq_lt.mpr hlt
  obtain ⟨hform, hlocal⟩ := h.runs (hp.imp_right fun hp => by simp_all)
  obtain ⟨hform', hlocal'⟩ := h'.runs (hp.imp_right fun hp => by simp_all)
  have horder : order (before ++ digits ++ after) (before ++ digits' ++ after') = .lt := by
    rw [order, compareLex, compareLex, compareOn, compareOn, hform, hform', hlocal, hlocal',
      Std.ReflOrd.compare_self, Run.compare_append_lt hlt']
    rfl
  refine ⟨horder, ?_⟩
  rw [Std.OrientedCmp.gt_iff_lt]
  exact horder

/-- The lines of a worksheet, one of which has a number of more than a hundred bits. -/
theorem order_of_numbers_worksheet :
    Stands "8889:taxpayer.5_wkst_" "0099" "a" ∧
    Stands "8889:taxpayer.5_wkst_" "100000000000000000000000000000000" ".7" ∧
    numeral "0099".toList < numeral "100000000000000000000000000000000".toList ∧
    WritesLess "0099".toList "100000000000000000000000000000000".toList ∧
    order "8889:taxpayer.5_wkst_0099a"
      "8889:taxpayer.5_wkst_100000000000000000000000000000000.7" = .lt ∧
    order "8889:taxpayer.5_wkst_100000000000000000000000000000000.7"
      "8889:taxpayer.5_wkst_0099a" = .gt := by
  have hshort : Stands "8889:taxpayer.5_wkst_" "0099" "a" :=
    ⟨by simp, by simp, by simp, by simp⟩
  have hlong : Stands "8889:taxpayer.5_wkst_" "100000000000000000000000000000000" ".7" :=
    ⟨by simp, by simp, by simp, by simp⟩
  have hlt : numeral "0099".toList < numeral "100000000000000000000000000000000".toList := by
    decide
  obtain ⟨hless, horder⟩ := order_of_numbers hshort hlong (.inl (by simp))
  exact ⟨hshort, hlong, hlt, hless.mp hlt, horder hlt⟩

end TaxReturn.Name
