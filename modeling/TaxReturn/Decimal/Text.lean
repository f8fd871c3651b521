import TaxReturn.Decimal.Basic
import TaxReturn.Fault
import TaxReturn.Text.Blank
import TaxReturn.Text.Split

/-!
Decimals as plain text: an optional sign, ASCII digits and at most one point. Reading keeps as
many digits behind the point as there is room for and rounds by the next one alone; printing
shows every place.
-/
namespace TaxReturn.Decimal

/-- Digits before the point, on top of `m`; there is no room to round here. -/
def readWhole (m : Nat) : List Nat → Except DecimalFault Nat
  | [] => .ok m
  | d :: ds => if 10 * m + d < limit then readWhole (10 * m + d) ds else .error .tooManyDigits

/-- Round `m` by the digit that follows it. Where that leaves no room, the last place goes. -/
def roundUp (m scale next : Nat) : Except DecimalFault (Nat × Nat) :=
  if next < 5 then .ok (m, scale)
  else if m + 1 < limit then .ok (m + 1, scale)
  else if scale = 0 then .error .roundedPastLimit
  else .ok ((m + 5) / 10, scale - 1)

/-- Digits behind the point, on top of `m` with `scale` of them read. -/
def readFraction (m scale : Nat) : List Nat → Except DecimalFault (Nat × Nat)
  | [] => .ok (m, scale)
  | d :: ds =>
    if scale < maxScale ∧ 10 * m + d < limit then readFraction (10 * m + d) (scale + 1) ds
    else roundUp m scale d

theorem readWhole_lt {m r : Nat} {ds : List Nat} (hm : m < limit) (h : readWhole m ds = .ok r) :
    r < limit := by
  induction ds generalizing m with
  | nil =>
    simp only [readWhole, Except.ok.injEq] at h
    omega
  | cons d ds ih =>
    rw [readWhole] at h
    split at h
    · exact ih ‹_› h
    · simp at h

theorem readFraction_lt {m scale : Nat} {r : Nat × Nat} {ds : List Nat} (hm : m < limit)
    (h : readFraction m scale ds = .ok r) : r.1 < limit := by
  induction ds generalizing m scale with
  | nil =>
    simp only [readFraction, Except.ok.injEq] at h
    simpa [← h] using hm
  | cons d ds ih =>
    rw [readFraction] at h
    split at h
    · rename_i hroom
      exact ih hroom.2 h
    · unfold roundUp at h
      split at h
      · simp only [Except.ok.injEq] at h
        simpa [← h] using hm
      · split at h
        · rename_i hroom
          simp only [Except.ok.injEq] at h
          simpa [← h] using hroom
        · split at h
          · simp at h
          · simp only [Except.ok.injEq] at h
            simp only [← h]
            omega

def digitOf (c : Char) : Nat := c.toNat - '0'.toNat

/-- The magnitude and the places of two strings of digits. -/
def readDigits (whole fraction : List Char) : Except DecimalFault (Nat × Nat) := do
  let m ← readWhole 0 (whole.map digitOf)
  readFraction m 0 (fraction.map digitOf)

theorem readDigits_lt {whole fraction : List Char} {r : Nat × Nat}
    (h : readDigits whole fraction = .ok r) : r.1 < limit := by
  unfold readDigits at h
  cases hw : readWhole 0 (whole.map digitOf) with
  | error e =>
    rw [hw] at h
    exact nomatch h
  | ok m =>
    rw [hw] at h
    exact readFraction_lt (readWhole_lt (by decide) hw) h

/-- The digits before and behind the point of a text without a sign, if it is plain. -/
def plain? (cs : List Char) : Option (List Char × List Char) :=
  let (whole, fraction) := (Text.cutChars '.' cs).getD (cs, [])
  if (whole ++ fraction).all Char.isDigit ∧ whole ++ fraction ≠ [] then some (whole, fraction)
  else none

/-- Split off one sign; `true` is minus. -/
def signOf : List Char → Bool × List Char
  | '-' :: cs => (true, cs)
  | '+' :: cs => (false, cs)
  | cs => (false, cs)

/-- Read a plain decimal, with blanks around it. -/
def parse (raw : String) : Except DecimalFault Decimal :=
  let cs := Text.trimChars raw.toList
  match plain? (signOf cs).2 with
  | none => .error (.notPlain (String.ofList cs))
  | some (whole, fraction) =>
    match h : readDigits whole fraction with
    | .error fault => .error fault
    | .ok r => .ok ⟨(signOf cs).1, r.1, r.2, readDigits_lt h⟩

/-- The largest amount that is read, in magnitude. -/
def maxAmount : Nat := 1000000000000000

def parseAmount (raw : String) : Except ValueFault Decimal :=
  match parse raw with
  | .error fault => .error (.notDecimal fault)
  | .ok amount =>
    if ofNat maxAmount < amount.abs then .error (.amountTooLarge maxAmount) else .ok amount

/-- All the digits, with a leading zero where nothing stands before the point. -/
def toChars (a : Decimal) : List Char :=
  let digits := if a.magnitude = 0 then [] else Nat.toDigits 10 a.magnitude
  let digits := List.replicate (a.scale - digits.length) '0' ++ digits
  let whole := digits.take (digits.length - a.scale)
  let fraction := digits.drop (digits.length - a.scale)
  (if a.negative then ['-'] else []) ++ (if whole.isEmpty then ['0'] else whole) ++
    (if fraction.isEmpty then [] else '.' :: fraction)

def text (a : Decimal) : String := String.ofList a.toChars

end TaxReturn.Decimal
