import ConsoleLink.Disk.Path
import ConsoleLink.NameMap

/-! # The disk

A disk holds files and directories below its root, which is its own parent. A path is looked up name
by name, from the root if it starts with a slash and from the working directory otherwise; the
errors are those of the operating system, with the numbers and wording that it gives them.
-/

namespace ConsoleLink

/-- What the operating system reports. -/
inductive Errno where
  | noEntry
  | fileExists
  | notDirectory
  | isDirectory
  | nameTooLong
  deriving DecidableEq

def Errno.message : Errno → String
  | .noEntry => "No such file or directory (os error 2)"
  | .fileExists => "File exists (os error 17)"
  | .notDirectory => "Not a directory (os error 20)"
  | .isDirectory => "Is a directory (os error 21)"
  | .nameTooLong => "File name too long (os error 36)"

/-- Why an access to a file failed. -/
inductive FileError where
  | system (e : Errno)
  /-- The path holds the character zero and never reaches the operating system. -/
  | zeroCharacter
  /-- Anything else that a real disk reports. -/
  | other (text : String)
  deriving DecidableEq

namespace FileError

def message : FileError → String
  | .system e => e.message
  | .zeroCharacter => "file name contained an unexpected NUL byte"
  | .other text => text

/-- Whether the file is simply not there. -/
def isMissing (e : FileError) : Bool := e = .system .noEntry

end FileError

/-- What is at a path. -/
inductive DiskEntry where
  | directory
  | file (bytes : ByteArray)

/-- A directory, by the names that lead to it from the root. -/
abbrev Location := List String

/-- Files and directories by the names that lead to them, with slashes between. -/
structure Disk where
  entries : NameMap DiskEntry := []
  /-- The working directory. -/
  working : Location := []

namespace Disk

/-- The longest name that a file may have, in bytes. -/
def maxNameBytes : Nat := 255

/-- The first length that a path may not have, in bytes. -/
def pathLimit : Nat := 4096

def keyOf (directory : Location) (name : String) : String :=
  "/".intercalate (directory ++ [name])

def find? (d : Disk) (directory : Location) (name : String) : Option DiskEntry :=
  NameMap.find? (keyOf directory name) d.entries

/-- Looks a name up in a directory. -/
def lookup (d : Disk) (directory : Location) (name : String) :
    Except Errno (Option DiskEntry) :=
  if maxNameBytes < name.utf8ByteSize then .error .nameTooLong
  else .ok (d.find? directory name)

/-- Goes from a directory to the one of a name. -/
def enter (d : Disk) (directory : Location) (name : String) : Except Errno Location :=
  if name = "." then .ok directory
  else if name = ".." then .ok directory.dropLast
  else match d.lookup directory name with
    | .error e => .error e
    | .ok none => .error .noEntry
    | .ok (some .directory) => .ok (directory ++ [name])
    | .ok (some (.file _)) => .error .notDirectory

/-- Where a path leads. -/
inductive Place where
  /-- A directory that the path names by dots or slashes only. -/
  | here (directory : Location)
  /-- A name in a directory, which may or may not be there. -/
  | named (directory : Location) (name : String) (slash : Bool)

/-- The directory where a path starts. -/
def origin (d : Disk) (path : String) : Location :=
  if path.toList.head? = some '/' then [] else d.working

/-- Where a path leads. -/
def locate (d : Disk) (path : String) : Except FileError Place :=
  if path.toList.contains (Char.ofNat 0) then .error .zeroCharacter
  else if path.isEmpty then .error (.system .noEntry)
  else if pathLimit ≤ path.utf8ByteSize then .error (.system .nameTooLong)
  else
    match (Path.names path).reverse with
    | [] => .ok (.here [])
    | last :: before => Except.mapError FileError.system <| do
      let directory ← before.reverse.foldlM d.enter (d.origin path)
      if last = "." || last = ".." then return .here (← d.enter directory last)
      else return .named directory last (Path.endsInSlash path)

/-- What is at a path. -/
def entryAt (d : Disk) (path : String) : Except FileError (Option DiskEntry) := do
  match ← d.locate path with
  | .here _ => return some .directory
  | .named directory name _ => (d.lookup directory name).mapError .system

/-- The bytes of a file. -/
def read (d : Disk) (path : String) : Except FileError ByteArray := do
  match ← d.locate path with
  | .here _ => throw (.system .isDirectory)
  | .named directory name slash =>
    match ← (d.lookup directory name).mapError .system with
    | none => throw (.system .noEntry)
    | some .directory => throw (.system .isDirectory)
    | some (.file bytes) => if slash then throw (.system .notDirectory) else return bytes

/-- Writes a file, in the place of one that is there. -/
def write (d : Disk) (path : String) (bytes : ByteArray) : Except FileError Disk := do
  match ← d.locate path with
  | .here _ => throw (.system .isDirectory)
  | .named directory name slash =>
    if slash then throw (.system .isDirectory)
    else match ← (d.lookup directory name).mapError .system with
      | some .directory => throw (.system .isDirectory)
      | _ =>
        return { d with entries := NameMap.insert (keyOf directory name) (.file bytes) d.entries }

/-- Writes a file; a disk on which it cannot be written stays as it is. -/
def tryWrite (d : Disk) (path : String) (bytes : ByteArray) : Except FileError Unit × Disk :=
  match d.write path bytes with
  | .ok d => (.ok (), d)
  | .error e => (.error e, d)

/-- Makes a directory in one that is there. -/
def makeDirectory (d : Disk) (path : String) : Except FileError Disk := do
  match ← d.locate path with
  | .here _ => throw (.system .fileExists)
  | .named directory name _ =>
    match ← (d.lookup directory name).mapError .system with
    | some _ => throw (.system .fileExists)
    | none =>
      return { d with entries := NameMap.insert (keyOf directory name) .directory d.entries }

def isDirectory (d : Disk) (path : String) : Bool :=
  match d.entryAt path with
  | .ok (some .directory) => true
  | _ => false

/-- Makes the first of these directories, after making those that it needs, which follow it. What
was made before an error stays. -/
def makeChain (d : Disk) : List String → Except FileError Unit × Disk
  | [] => (.ok (), d)
  | path :: above =>
    match d.makeDirectory path with
    | .ok d => (.ok (), d)
    | .error e =>
      if e.isMissing then
        match d.makeChain above with
        | (.error e, d) => (.error e, d)
        | (.ok (), d) =>
          match d.makeDirectory path with
          | .ok d => (.ok (), d)
          | .error e => (if d.isDirectory path then .ok () else .error e, d)
      else (if d.isDirectory path then .ok () else .error e, d)

/-- Makes a directory and those above it, as far as they are not there. -/
def makeDirectories (d : Disk) (path : String) : Except FileError Unit × Disk :=
  if path.isEmpty then (.ok (), d) else d.makeChain (path :: Path.parents path)

/-- A disk with nothing but a working directory and what that is in. -/
def inside (working : Location) : Disk :=
  { (makeDirectories {} ("/".intercalate working)).2 with working := working }

/-- The paths of all files and directories below the working directory, a directory's with a slash
at its end. -/
def listing (d : Disk) : List String :=
  let above := (keyOf d.working "").toList
  let below := d.entries.filter fun e => above.isPrefixOf e.1.toList
  (below.map fun e =>
    let path := String.ofList (e.1.toList.drop above.length)
    match e.2 with
    | .directory => path ++ "/"
    | .file _ => path).mergeSort fun a b => decide (a ≤ b)

end Disk

end ConsoleLink
