import TaxReturn.Command.Files
import TaxReturn.Command.Run
import TaxReturn.Terminal

/-!
A desk at which the command runs without a file system: files held in memory, lines waiting to be
entered, and what comes out.
-/
namespace TaxReturn.Command

structure Desk where
  files : Files
  /-- Where questions are asked; messages are shown there as well. -/
  terminal : Terminal
  printed : String := ""

namespace Desk

variable (desk : Desk)

/-- Print text. -/
def print (text : String) : Desk := { desk with printed := desk.printed ++ text }

/-- Show text where questions are asked. -/
def say (text : String) : Desk :=
  { desk with terminal := { desk.terminal with shown := desk.terminal.shown ++ text } }

/-- All that waits to be entered, at once. -/
def takeEntries : Except FileFault String × Desk :=
  let text := match desk.terminal.lines.mapM id with
    | some lines => .ok (Text.join "" lines)
    | none => .error .notText
  (text, { desk with terminal := { desk.terminal with lines := [] } })

/-- Read from a device. What comes out cannot be read again. -/
def readDevice : Device → Except FileFault String × Desk
  | .entry => desk.takeEntries
  | .empty | .full | .print | .screen => (.ok "", desk)

def writeDevice (text : String) : Device → Except FileFault Desk
  | .empty | .entry => .ok desk
  | .full => if text.isEmpty then .ok desk else .error .noSpace
  | .print => .ok (desk.print text)
  | .screen => .ok (desk.say text)

def read (path : String) : Except FileFault String × Desk :=
  match desk.files.read path with
  | .error fault => (.error fault, desk)
  | .ok (.inr text) => (.ok text, desk)
  | .ok (.inl device) => desk.readDevice device

def write (path text : String) : Except FileFault Desk := do
  let location ← desk.files.locateNew path
  match device? location with
  | some device => desk.writeDevice text device
  | none => return { desk with files := desk.files.write location text }

/-- Run the command at a desk. -/
def host : Host (StateM Desk) where
  readFile path := modifyGet fun desk => desk.read path
  writeFile path text := modifyGet fun desk =>
    match desk.write path text with
    | .ok desk => (.ok (), desk)
    | .error fault => (.error fault, desk)
  print text := modify fun desk => desk.print text
  say text := modify fun desk => desk.say text
  ask question := modifyGet fun desk =>
    let (answer, terminal) := desk.terminal.ask question
    (answer, { desk with terminal })

/-- The outcome of the command and the desk it leaves behind. -/
def run (desk : Desk) (args : List String) : Outcome × Desk := (Command.run host args).run desk

end Desk
end TaxReturn.Command
