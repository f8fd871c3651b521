import TaxReturn.Decimal.Rounding

/-!
Sums, differences, products and quotients. A result that has no room gives up places, rounded
half to even, and there is no result when none is left to give up.
-/
namespace TaxReturn.Decimal

/-- `n / d` units of `places` places under a sign, giving up places until it fits. -/
def fit (negative : Bool) (n d : Nat) : (places : Nat) → Option Decimal
  | 0 =>
    let m := roundDiv .toEven n d
    if h : m < limit then some ⟨negative, m, 0, h⟩ else none
  | places + 1 =>
    let m := roundDiv .toEven n d
    if h : m < limit then some ⟨negative, m, places + 1, h⟩
    else fit negative n (10 * d) places

/-- `n` units of `scale` places, with no more places than there may be. -/
def fitPlaces (negative : Bool) (n scale : Nat) : Option Decimal :=
  fit negative n (tenTo (scale - maxScale)) (min scale maxScale)

/-- A number of this size or more is no longer a word. -/
def wordLimit : Nat := 0x10000000000000000

/-- Whether `m` units stay within a word while they get `n` more places, nine at a time, before
the last of these steps. -/
def staysWord (m n : Nat) : Bool :=
  if m < wordLimit then
    if _short : n ≤ 9 then true else staysWord (m * 1000000000) (n - 9)
  else false
termination_by n

variable (a b : Decimal)

/-- Whether two decimals come to the same number of places by short steps. -/
def alignsShort : Bool :=
  if a.scale = b.scale then true
  else if a.scale < b.scale then staysWord a.magnitude (b.scale - a.scale)
  else staysWord b.magnitude (a.scale - b.scale)

/-- The sum. A zero adds neither value nor places. Places beyond `maxScale`, which come from fixing
places alone, are kept where the operands align by short steps. -/
def add? : Option Decimal :=
  if a.isZero then some b
  else if b.isZero then some a
  else
    let scale := max a.scale b.scale
    let sum := a.units * tenTo (scale - a.scale) + b.units * tenTo (scale - b.scale)
    if alignsShort a b then fit (decide (sum < 0)) sum.natAbs 1 scale
    else fitPlaces (decide (sum < 0)) sum.natAbs scale

/-- The difference. Of two zeros the second stands. -/
def sub? : Option Decimal :=
  if b.isZero then some (if a.isZero then b else a) else add? a (-b)

/-- A magnitude below this is short. -/
def shortMagnitude : Nat := 0x100000000

/-- More places than this leave nothing of a product of short magnitudes. -/
def negligibleScale : Nat := 47

/-- The product. The places add up, as far as there are that many. Where it is too small for them,
short magnitudes give zero without a sign, and others zero with the sign of the product. -/
def mul? : Option Decimal :=
  let scale := a.scale + b.scale
  let short := a.magnitude < shortMagnitude && b.magnitude < shortMagnitude
  if a.isZero || b.isZero || (short && negligibleScale < scale) then some 0
  else
    let product := fitPlaces (a.negative != b.negative) (a.magnitude * b.magnitude) scale
    if short then product.map fun p => if p.isZero then p.abs else p else product

/-- The quotient, to as many places as fit; there is none by zero. -/
def div? : Option Decimal :=
  if b.isZero then none
  else if a.isZero then some 0
  else fit (a.negative != b.negative) (a.magnitude * tenTo (b.scale + maxScale))
    (b.magnitude * tenTo a.scale) maxScale

/-- The integer at or below a value. -/
def floor? : Option Decimal :=
  let n := a.units.fdiv (tenTo a.scale)
  if h : n.natAbs < limit then some ⟨decide (n < 0), n.natAbs, 0, h⟩ else none

end TaxReturn.Decimal
