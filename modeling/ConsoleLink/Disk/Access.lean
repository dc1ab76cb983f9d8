import ConsoleLink.Disk.Basic

/-! # Accesses to files

An `Access` is a computation that reads and writes files on the way to its result. It says what is
accessed and in what order, not on which file system: `runOn` runs it on any that is a value, such
as a disk.
-/

namespace ConsoleLink

/-- A computation that accesses files. -/
inductive Access (α : Type) where
  | done (a : α)
  | readFile (path : String) (next : Except FileError ByteArray → Access α)
  | writeFile (path : String) (bytes : ByteArray) (next : Except FileError Unit → Access α)
  | makeDirectories (path : String) (next : Except FileError Unit → Access α)

/-- What files give that are accessed, and what becomes of them. -/
class FileSystem (φ : Type) where
  /-- The bytes of a file. -/
  read : String → φ → Except FileError ByteArray
  /-- Writes a file, in the place of one that is there. A part may be written before an error. -/
  write : String → ByteArray → φ → Except FileError Unit × φ
  /-- Makes a directory and those above it, as far as they are not there. -/
  makeDirectories : String → φ → Except FileError Unit × φ

instance : FileSystem Disk where
  read path d := d.read path
  write path bytes d := d.tryWrite path bytes
  makeDirectories path d := d.makeDirectories path

namespace Access

variable {α β : Type}

def bind : Access α → (α → Access β) → Access β
  | .done a, f => f a
  | .readFile path next, f => .readFile path fun r => (next r).bind f
  | .writeFile path bytes next, f => .writeFile path bytes fun r => (next r).bind f
  | .makeDirectories path next, f => .makeDirectories path fun r => (next r).bind f

instance : Monad Access where
  pure := .done
  bind := bind

/-- The bytes of a file. -/
def read (path : String) : Access (Except FileError ByteArray) := .readFile path .done

/-- Writes a file, in the place of one that is there. -/
def write (path : String) (bytes : ByteArray) : Access (Except FileError Unit) :=
  .writeFile path bytes .done

/-- Makes a directory and those above it, as far as they are not there. -/
def ensureDirectory (path : String) : Access (Except FileError Unit) := .makeDirectories path .done

/-- Makes the directory that a path is in. -/
def ensureParent (path : String) : Access (Except FileError Unit) :=
  match Path.parent? path with
  | some directory => ensureDirectory directory
  | none => pure (.ok ())

variable {φ : Type} [FileSystem φ]

/-- Runs the accesses on some files. -/
def runOn : Access α → φ → α × φ
  | .done a, d => (a, d)
  | .readFile path next, d => (next (FileSystem.read path d)).runOn d
  | .writeFile path bytes next, d =>
    let (r, d) := FileSystem.write path bytes d
    (next r).runOn d
  | .makeDirectories path next, d =>
    let (r, d) := FileSystem.makeDirectories path d
    (next r).runOn d

@[simp] theorem runOn_pure (a : α) (d : φ) : (pure a : Access α).runOn d = (a, d) := rfl

theorem runOn_bind (x : Access α) (f : α → Access β) (d : φ) :
    (x >>= f).runOn d = (f (x.runOn d).1).runOn (x.runOn d).2 := by
  change (x.bind f).runOn d = _
  induction x generalizing d with
  | done a => rfl
  | readFile path next ih => exact ih _ _
  | writeFile path bytes next ih => exact ih _ _
  | makeDirectories path next ih => exact ih _ _

end Access

end ConsoleLink
