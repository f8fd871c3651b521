/-!
Exact decimals: a sign, a magnitude of at most 96 bits and a number of decimal places. The places
are part of a value, so `1.5` and `1.50` are different decimals that compare equal, and zero keeps
a sign.
-/
namespace TaxReturn

/-- The first number that needs more than 96 bits. -/
abbrev Decimal.limit : Nat := 0x1000000000000000000000000

structure Decimal where
  negative : Bool
  magnitude : Nat
  scale : Nat
  magnitude_lt : magnitude < Decimal.limit
  deriving DecidableEq, Repr

namespace Decimal

/-- The power of ten with `n` zeros. -/
def tenTo (n : Nat) : Nat := Nat.pow 10 n

theorem tenTo_succ (n : Nat) : tenTo (n + 1) = 10 * tenTo n := Nat.mul_comm _ _

theorem tenTo_pos (n : Nat) : 0 < tenTo n := Nat.pow_pos (by decide)

theorem two_le_tenTo {n : Nat} (h : 0 < n) : 2 ≤ tenTo n := by
  obtain ⟨k, rfl⟩ := Nat.exists_eq_succ_of_ne_zero (Nat.ne_of_gt h)
  have := tenTo_pos k
  rw [Nat.succ_eq_add_one, tenTo_succ]
  omega

/-- More places than this are neither read nor computed. -/
def maxScale : Nat := 28

def ofNat (n : Nat) (h : n < limit := by decide) : Decimal := ⟨false, n, 0, h⟩

instance : Zero Decimal := ⟨ofNat 0⟩
instance : Inhabited Decimal := ⟨0⟩

/-- `n` hundredths. -/
def cents (n : Nat) (h : n < limit := by decide) : Decimal := ⟨false, n, 2, h⟩

def ofInt64 (i : Int64) : Decimal :=
  ⟨decide (i.toInt < 0), i.toInt.natAbs, 0, by
    have := i.le_toInt
    have := i.toInt_lt
    unfold limit
    omega⟩

variable (a b : Decimal)

/-- The magnitude with its sign, as a count of units in the last place. -/
def units : Int := if a.negative then -(a.magnitude : Int) else a.magnitude

def isZero : Bool := a.magnitude == 0

def neg : Decimal := { a with negative := !a.negative }

def abs : Decimal := { a with negative := false }

instance : Neg Decimal := ⟨neg⟩

/-- Compare as numbers, whatever the places. -/
def order : Ordering :=
  Ord.compare (a.units * tenTo b.scale) (b.units * tenTo a.scale)

instance : LE Decimal := ⟨fun a b => (order a b).isLE⟩
instance : LT Decimal := ⟨fun a b => order a b = .lt⟩
instance : DecidableLE Decimal := fun a b => inferInstanceAs (Decidable ((order a b).isLE = true))
instance : DecidableLT Decimal := fun a b => inferInstanceAs (Decidable (order a b = .lt))

/-- The larger one, and the first of two equal ones. -/
instance : Max Decimal := ⟨fun a b => if a < b then b else a⟩

/-- The smaller one, and the first of two equal ones. -/
instance : Min Decimal := ⟨fun a b => if b < a then b else a⟩

/-- A negative amount counts as nothing. -/
def nonNegative : Decimal := max a 0

end Decimal
end TaxReturn
