import TaxReturn.Text.CodePoint
import TaxReturn.Text.Utf8

/-!
Characters that a terminal acts on. On a line of a log they are written out, so that they have no
effect; in a message about an argument they are left out, with the sequences that they begin.
-/
namespace TaxReturn.Text

/-- How a character stands on a line of a log. -/
def writtenOut (c : Char) : List Char :=
  match c with
  | '\x07' => ['\\', 'x', '0', '7']
  | '\x08' => ['\\', 'x', '0', '8']
  | '\x0c' => ['\\', 'x', '0', 'c']
  | '\x1b' => ['\\', 'x', '1', 'b']
  | '\x7f' => ['\\', 'x', '7', 'f']
  | c =>
    if 0x80 ≤ c.toNat ∧ c.toNat ≤ 0x9f then ['\\', 'u', '\x7b'] ++ hex c.toNat ++ ['\x7d']
    else [c]

def writeOutControls (s : String) : String := String.ofList (s.toList.flatMap writtenOut)

/-- Where a character stands with respect to control sequences. -/
inductive Sequence where
  | outside
  /-- Behind the escape character. -/
  | escape
  | escapeFiller
  | control
  /-- Behind the start of a device command, its parameters, or its fillers. -/
  | device
  | deviceParameter
  | deviceFiller
  /-- In text that a string terminator ends. -/
  | string
  /-- In text for the system, which a bell ends. -/
  | system
  deriving DecidableEq, Repr

namespace Sequence

/-- Where a printable ASCII character leads. -/
def afterPrintable (place : Sequence) (c : Char) : Sequence :=
  let filler := c.toNat < 0x30
  let parameter := c.toNat < 0x40
  match place with
  | outside => outside
  | escape =>
    if filler then escapeFiller
    else if c = '[' then control
    else if c = ']' then system
    else if c = 'P' then device
    else if c = 'X' ∨ c = '^' ∨ c = '_' then string
    else outside
  | escapeFiller => if filler then escapeFiller else outside
  | control => if parameter then control else outside
  | device => if filler then deviceFiller else if parameter then deviceParameter else string
  | deviceParameter =>
    if filler then deviceFiller else if c.toNat < 0x3c then deviceParameter else string
  | deviceFiller => if filler then deviceFiller else string
  | string => string
  | system => system

/-- The byte that ends text within a sequence. -/
def stringTerminator : Nat := 0x9c

/-- Where a character outside of ASCII leads; its bytes are looked at one by one. -/
def afterWide (place : Sequence) (c : Char) : Sequence :=
  if place = string ∧ stringTerminator ∈ bytesOf (byteCount c.toNat) c.toNat then outside
  else place

/-- The controls that only move the place where text goes on. -/
def isSpacing (c : Char) : Bool := c = '\t' || c = '\n' || c = '\x0c' || c = '\r'

/-- Whether spacing within a sequence is shown. -/
def showsSpacing : Sequence → Bool
  | outside | escape | escapeFiller | control => true
  | device | deviceParameter | deviceFiller | string | system => false

/-- Where a character leads, and whether it is shown. -/
def step (place : Sequence) (c : Char) : Sequence × Bool :=
  if c = '\x1b' then (escape, false)
  else if c = '\x18' ∨ c = '\x1a' then (outside, false)
  else if isSpacing c then (place, place.showsSpacing)
  else if c = '\x07' ∧ place = system then (outside, false)
  else if c.toNat < 0x20 ∨ c = '\x7f' then (place, false)
  else (if c.toNat < 0x80 then place.afterPrintable c else place.afterWide c,
    decide (place = outside))

/-- Where a character behind a shown one leads, and whether it is shown. Text runs on as it does
outside of sequences. A sequence with spacing in it goes on behind the next hidden character, unless
one that is not of ASCII comes before. -/
def stepOn (place : Sequence) (c : Char) : Sequence × Bool :=
  let (next, visible) := outside.step c
  if next ≠ outside ∨ c = '\x18' ∨ c = '\x1a' ∨ 0x80 ≤ c.toNat then (next, visible)
  else (place, visible)

/-- The characters that are shown; `behind` tells that the last one was. -/
def shown : Sequence → (behind : Bool) → List Char → List Char
  | _, _, [] => []
  | place, behind, c :: cs =>
    let (next, visible) := if behind then place.stepOn c else place.step c
    if visible then c :: shown next true cs else shown next false cs

end Sequence

/-- Text without control characters and sequences. -/
def withoutControls (s : String) : String := String.ofList (Sequence.outside.shown false s.toList)

end TaxReturn.Text
