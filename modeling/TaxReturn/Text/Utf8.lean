import TaxReturn.Text.CharSet

/-!
Characters as one to four bytes, and ranges of characters as rows of byte ranges.
-/
namespace TaxReturn.Text

/-- The last code point with `n` bytes. -/
def lastOfLength : Nat → Nat
  | 1 => 0x7f
  | 2 => 0x7ff
  | 3 => 0xffff
  | _ => CharSet.lastCodePoint

/-- How many bytes a code point has. -/
def byteCount (n : Nat) : Nat :=
  if n ≤ lastOfLength 1 then 1
  else if n ≤ lastOfLength 2 then 2
  else if n ≤ lastOfLength 3 then 3
  else 4

/-- The bytes after the first, each with six bits of the code point. -/
def trailing (n : Nat) : Nat → List Nat
  | 0 => []
  | k + 1 => trailing (n / 64) k ++ [0x80 + n % 64]

/-- The bytes of a code point that has `count` of them. -/
def bytesOf (count n : Nat) : List Nat :=
  let lead := match count with
    | 1 => 0
    | 2 => 0xc0
    | 3 => 0xe0
    | _ => 0xf0
  (lead + n / Nat.pow 64 (count - 1)) :: trailing n (count - 1)

/-- Cut a range where the bytes after the first `count - k` would not run through all their
values. -/
def alignedFrom (first last : Nat) : Nat → List (Nat × Nat)
  | 0 => [(first, last)]
  | k + 1 =>
    let unit := Nat.pow 64 (k + 1)
    if first / unit = last / unit then alignedFrom first last k
    else
      let low := if first % unit = 0 then []
        else alignedFrom first (first / unit * unit + unit - 1) k
      let high := if last % unit = unit - 1 then [] else alignedFrom (last / unit * unit) last k
      let start := if first % unit = 0 then first else first / unit * unit + unit
      let stop := if last % unit = unit - 1 then last else last / unit * unit - 1
      low ++ (if start ≤ stop then [(start, stop)] else []) ++ high

/-- A range of code points of one length as rows of byte ranges. -/
def rowsOfLength (count first last : Nat) : List (List (Nat × Nat)) :=
  (alignedFrom first last (count - 1)).map fun r => (bytesOf count r.1).zip (bytesOf count r.2)

/-- The rows of byte ranges that the characters of a set are written with, in order. -/
def CharSet.byteRows (a : CharSet) : List (List (Nat × Nat)) :=
  let spans := [(1, 0, 0x7f), (2, 0x80, 0x7ff), (3, 0x800, 0xd7ff), (3, 0xe000, 0xffff),
    (4, 0x10000, CharSet.lastCodePoint)]
  a.ranges.flatMap fun r =>
    spans.flatMap fun s =>
      let first := max r.1 s.2.1
      let last := min r.2 s.2.2
      if first ≤ last then rowsOfLength s.1 first last else []

end TaxReturn.Text
