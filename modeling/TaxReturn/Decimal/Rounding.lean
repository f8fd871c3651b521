import TaxReturn.Decimal.Basic

/-!
Rounding to a number of places. A quotient goes to its nearest neighbour; which way a tie goes is
the caller's choice.
-/
namespace TaxReturn

inductive Tie where
  | toEven
  | awayFromZero
  deriving DecidableEq, Repr

/-- The natural number nearest to `n / d`. -/
def roundDiv (tie : Tie) (n d : Nat) : Nat :=
  let q := n / d
  if 2 * (n % d) < d then q
  else if d < 2 * (n % d) then q + 1
  else match tie with
    | .toEven => q + q % 2
    | .awayFromZero => q + 1

theorem roundDiv_le_succ (tie : Tie) (n d : Nat) : roundDiv tie n d ≤ n / d + 1 := by
  unfold roundDiv
  simp only
  split
  · omega
  · split
    · omega
    · cases tie <;> simp only <;> omega

theorem roundDiv_le (tie : Tie) {n d : Nat} (hd : 2 ≤ d) : roundDiv tie n d ≤ n := by
  by_cases hn : n = 0
  · subst hn
    simp [roundDiv, show 0 < d by omega]
  · have := roundDiv_le_succ tie n d
    have : n / d < n := Nat.div_lt_self (by omega) hd
    omega

namespace Decimal

variable (a : Decimal)

/-- Round to `places`. A value with no more places stands as it is, zero keeps its sign, and a
value that rounds to zero loses it. -/
def round (tie : Tie) (places : Nat) : Decimal :=
  if h : a.scale ≤ places then a
  else
    let m := roundDiv tie a.magnitude (tenTo (a.scale - places))
    ⟨a.negative && (a.magnitude == 0 || m != 0), m, places,
      Nat.lt_of_le_of_lt (roundDiv_le tie (two_le_tenTo (by omega))) a.magnitude_lt⟩

/-- Append up to `n` zeros, as far as there is room. -/
def pad (a : Decimal) : Nat → Decimal
  | 0 => a
  | n + 1 =>
    if h : a.magnitude * 10 < limit then pad ⟨a.negative, a.magnitude * 10, a.scale + 1, h⟩ n
    else a

/-- Extend to `places`. Zero has no more than the most places there are. -/
def extend (places : Nat) : Decimal :=
  if places ≤ a.scale then a
  else if a.magnitude = 0 then { a with scale := min places maxScale }
  else a.pad (places - a.scale)

/-- Exactly `places` places, half a unit going to the even neighbour. -/
def fixPlaces (places : Nat) : Decimal := (a.round .toEven places).extend places

/-- Drop the zeros at the end of `m`, of which no more than `n` stand behind the point. -/
def dropZeros (m : Nat) : Nat → Nat × Nat
  | 0 => (m, 0)
  | n + 1 => if m % 10 = 0 then dropZeros (m / 10) n else (m, n + 1)

theorem dropZeros_le (m n : Nat) : (dropZeros m n).1 ≤ m := by
  induction n generalizing m with
  | zero => exact Nat.le_refl m
  | succ n ih =>
    rw [dropZeros]
    split
    · exact Nat.le_trans (ih _) (Nat.div_le_self m 10)
    · exact Nat.le_refl m

/-- The same number with the fewest places. -/
def normalize : Decimal :=
  if a.magnitude = 0 then 0
  else ⟨a.negative, (dropZeros a.magnitude a.scale).1, (dropZeros a.magnitude a.scale).2,
    Nat.lt_of_le_of_lt (dropZeros_le _ _) a.magnitude_lt⟩

end Decimal
end TaxReturn
