import TaxReturn.Fault
import TaxReturn.Text.Blank

/-!
Booleans and integers as text.
-/
namespace TaxReturn.Scalar

def yesWords : List String := ["true", "yes", "y", "1"]

def noWords : List String := ["false", "no", "n", "0"]

/-- Read a boolean, in any case and with blanks around it. -/
def parseBool (raw : String) : Option Bool :=
  let word := String.ofList ((Text.trimChars raw.toList).map Char.toLower)
  if word ∈ yesWords then some true
  else if word ∈ noWords then some false
  else none

def boolText (b : Bool) : String := if b then "true" else "false"

/-- Digits on top of `n`, up to `max`; the first digit too many is the fault `above`. -/
def readDigits (max : Nat) (above : IntegerFault) (n : Nat) : List Char → Except IntegerFault Nat
  | [] => .ok n
  | c :: cs =>
    if c.isDigit then
      let n := 10 * n + (c.toNat - '0'.toNat)
      if n ≤ max then readDigits max above n cs else .error above
    else .error .notDigits

/-- The largest signed 64-bit integer. -/
def maxInt : Nat := 0x7fffffffffffffff

/-- Read a signed 64-bit integer. -/
def parseInt (raw : String) : Except IntegerFault Int64 :=
  match raw.toList with
  | [] => .error .empty
  | ['-'] | ['+'] => .error .notDigits
  | '-' :: cs => (readDigits (maxInt + 1) .belowRange 0 cs).map fun n => Int64.ofInt (-n)
  | '+' :: cs | cs => (readDigits maxInt .aboveRange 0 cs).map fun n => Int64.ofInt n

def intText (i : Int64) : String := toString i.toInt

end TaxReturn.Scalar
