import TaxReturn.Command.Run
import TaxReturn.Terminal

/-!
The command at a terminal and on the files of the system.
-/
namespace TaxReturn.Command

def fileFault : IO.Error → FileFault
  | .noFileOrDirectory _ _ _ => .notFound
  | .permissionDenied _ _ _ => .denied
  | .inappropriateType _ 20 _ => .notADirectory
  | .inappropriateType _ 21 _ => .isDirectory
  | .invalidArgument _ 36 _ => .nameTooLong
  | .resourceExhausted _ 28 _ => .noSpace
  | error => .other error.toString

def readText (path : String) : IO (Except FileFault String) := do
  try
    match String.fromUTF8? (← IO.FS.readBinFile path) with
    | some text => return .ok text
    | none => return .error .notText
  catch error => return .error (fileFault error)

def writeText (path text : String) : IO (Except FileFault Unit) := do
  try
    IO.FS.writeFile path text
    return .ok ()
  catch error => return .error (fileFault error)

/-- Show something where questions are asked. -/
def showText (text : String) : IO Unit := do
  let screen ← IO.getStderr
  screen.putStr text
  screen.flush

/-- The rest of a line on top of the bytes read, with its line feed if it has one. -/
partial def readLine (keys : IO.FS.Stream) (line : ByteArray) : IO ByteArray := do
  let next ← keys.read 1
  if next.isEmpty || next[0]? == some 10 then return line ++ next
  else readLine keys (line ++ next)

/-- Invite entries until one can be read, or there are no more. -/
partial def invite (question : Question) : IO (Option String) := do
  showText (Terminal.invitation question)
  let line ← readLine (← IO.getStdin) .empty
  if line.isEmpty then
    showText "\n"
    return none
  match (String.fromUTF8? line).map (Terminal.readEntry question) with
  | none => return none
  | some (.ok entry) => return some entry
  | some (.error complaint) =>
    showText complaint
    invite question

def system : Host IO where
  readFile := readText
  writeFile := writeText
  print := IO.print
  say := showText
  ask question := do
    showText (Terminal.opening question)
    invite question

end TaxReturn.Command

def main (args : List String) : IO UInt32 := do
  let outcome ← TaxReturn.Command.run TaxReturn.Command.system args
  return outcome.code.toUInt32
