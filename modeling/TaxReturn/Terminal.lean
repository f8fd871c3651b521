import TaxReturn.Solver.Run

/-!
Asking for inputs at a terminal. An entry that cannot be read is asked for again; the end of the
input, or a line that is not text, is a refusal.
-/
namespace TaxReturn

/-- What is left to read, line by line, and what was shown so far. A line that is not text is
`none`. -/
structure Terminal where
  lines : List (Option String)
  shown : String := ""

namespace Terminal

/-- What stands above the first invitation. -/
def opening (q : Question) : String :=
  "\n" ++ q.name ++ ": " ++ q.spec.help ++ "\n" ++
    if q.waiting.isEmpty then "" else "  needed by " ++ Text.join ", " q.waiting ++ "\n"

def invitation (q : Question) : String := "[" ++ q.spec.suggestion ++ "] > "

/-- The entry on a line, or what is shown about it. -/
def readEntry (q : Question) (line : String) : Except String String :=
  let entry := Text.trim line
  match q.spec.parse entry with
  | .ok _ => .ok entry
  | .error fault => .error ("  " ++ fault.text ++ "\n")

/-- Invite entries until one can be read: the answer, what was shown and the lines left. -/
def readAnswer (q : Question) : List (Option String) → Option String × String × List (Option String)
  | [] => (none, invitation q ++ "\n", [])
  | none :: rest => (none, invitation q, rest)
  | some line :: rest =>
    match readEntry q line with
    | .ok entry => (some entry, invitation q, rest)
    | .error complaint =>
      let (answer, shown, left) := readAnswer q rest
      (answer, invitation q ++ complaint ++ shown, left)

def ask (q : Question) (t : Terminal) : Option String × Terminal :=
  let (answer, shown, lines) := readAnswer q t.lines
  (answer, ⟨lines, t.shown ++ opening q ++ shown⟩)

/-- Cut bytes behind each line feed. The last piece has none, and there is no empty piece. -/
def splitLines (line : List UInt8) : List UInt8 → List (List UInt8)
  | [] => if line.isEmpty then [] else [line.reverse]
  | b :: rest =>
    if b = 10 then (b :: line).reverse :: splitLines [] rest else splitLines (b :: line) rest

/-- A terminal at which these bytes are entered. -/
def ofBytes (bytes : ByteArray) : Terminal :=
  ⟨(splitLines [] bytes.toList).map fun line => String.fromUTF8? ⟨line.toArray⟩, ""⟩

end Terminal
end TaxReturn
