import TaxReturn.Fault

/-!
Files held in memory, by the paths that lead to them from a folder of their own. Around it are the
folders and devices of every system.
-/
namespace TaxReturn.Command

/-- The names on the way to a file or folder, from the root. -/
abbrev Location : Type := List String

/-- Where the command runs: a folder for temporary files, whose own name no path can say. -/
def home : Location := ["tmp", ""]

/-- The folders that every system has. -/
def systemFolders : List Location :=
  (["bin", "boot", "dev", "etc", "home", "lib", "media", "mnt", "opt", "proc", "root", "run",
    "sbin", "srv", "sys", "tmp", "usr", "var"].map fun name => [name]) ++
  (["bin", "lib", "local", "sbin", "share"].map fun name => ["usr", name]) ++
  (["lib", "log", "tmp"].map fun name => ["var", name])

/-- A file that is not kept. -/
inductive Device where
  | empty
  /-- There is never room on it. -/
  | full
  /-- The lines that wait to be entered. -/
  | entry
  /-- What is printed. -/
  | print
  /-- Where questions are asked. -/
  | screen
  deriving DecidableEq, Repr

def device? : Location → Option Device
  | ["dev", "null"] => some .empty
  | ["dev", "full"] => some .full
  | ["dev", "stdin"] => some .entry
  | ["dev", "stdout"] => some .print
  | ["dev", "stderr"] => some .screen
  | _ => none

/-- Files by their locations. A file in a folder brings the folder about. -/
structure Files where
  contents : List (Location × ByteArray)

namespace Files

/-- The longest name there can be, in bytes. -/
def longestName : Nat := 255

/-- The longest path there can be, in bytes. -/
def longestPath : Nat := 4095

/-- The names on a path. -/
def names (path : String) : List String :=
  (Text.piecesOf '/' path.toList).map String.ofList

/-- Whether a name on a path stays where it is. -/
def stays (name : String) : Bool := name == "" || name == "."

/-- Files by paths from `home`. -/
def ofList (files : List (String × ByteArray)) : Files :=
  ⟨files.map fun f => (home ++ (names f.1).filter fun name => !stays name, f.2)⟩

variable (files : Files)

def find? (location : Location) : Option ByteArray := files.contents.lookup location

def isFolder (location : Location) : Bool :=
  location.isPrefixOf home || systemFolders.contains location ||
    files.contents.any fun f => location.isPrefixOf f.1 && f.1 != location

/-- Whether there is a file or a device. -/
def holds (location : Location) : Bool := (files.find? location).isSome || (device? location).isSome

/-- The location that names lead to from another. All but the last name have to be folders. -/
def follow (location : Location) : List String → Except FileFault Location
  | [] => .ok location
  | name :: rest =>
    if files.isFolder location then
      if stays name then follow location rest
      else if name = ".." then follow location.dropLast rest
      else if longestName < name.utf8ByteSize then .error .nameTooLong
      else follow (location ++ [name]) rest
    else .error (if files.holds location then .notADirectory else .notFound)

/-- The location that names lead to from where a path starts. -/
def lead (path : String) (names : List String) : Except FileFault Location :=
  if path.isEmpty then .error .notFound
  else if longestPath < path.utf8ByteSize then .error .nameTooLong
  else files.follow (if path.startsWith "/" then [] else home) names

/-- What is found on a path: a device, or text. -/
def read (path : String) : Except FileFault (Device ⊕ String) := do
  let location ← files.lead path (names path)
  if files.isFolder location then throw .isDirectory
  match device? location, files.find? location with
  | some device, _ => return .inl device
  | none, none => throw .notFound
  | none, some bytes =>
    match String.fromUTF8? bytes with
    | none => throw .notText
    | some text => return .inr text

/-- The location that may be written on a path. A path that ends in a slash is one to a folder,
whether there is one or not. -/
def locateNew (path : String) : Except FileFault Location := do
  let names := names path
  if names.getLast? = some "" then
    let _ ← files.lead path ((names.reverse.dropWhile (· == "")).tail.reverse ++ [""])
    throw .isDirectory
  let location ← files.lead path names
  if files.isFolder location then throw .isDirectory
  return location

def put (location : Location) (bytes : ByteArray) :
    List (Location × ByteArray) → List (Location × ByteArray)
  | [] => [(location, bytes)]
  | f :: rest => if f.1 = location then (location, bytes) :: rest else f :: put location bytes rest

/-- The files with text at a location. -/
def write (location : Location) (text : String) : Files := ⟨put location text.toUTF8 files.contents⟩

/-- The files under `home` that are not as they were before, by their paths. -/
def changedSince (before after : Files) : List (String × ByteArray) :=
  (after.contents.filter fun f => home.isPrefixOf f.1 && before.find? f.1 != some f.2).map fun f =>
    (Text.join "/" (f.1.drop home.length), f.2)

end Files
end TaxReturn.Command
