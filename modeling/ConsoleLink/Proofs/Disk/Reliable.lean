import ConsoleLink.Disk.Access

/-! # Files that can be relied on

What a program may expect of files that nobody else touches: what was written last to a file is what
is read from it, by whatever path leads to it, and accesses to other files leave it alone.
-/

namespace ConsoleLink

namespace FileSystem

/-- What can be relied on of files, some paths to which lead to the same file. Where a path leads
may change: directories that are made can complete it. -/
structure Reliable (φ : Type) [FileSystem φ] (SameFile : φ → String → String → Prop) : Prop where
  /-- What has been written to a path is read from it. -/
  read_written {path : String} {bytes : ByteArray} {d : φ} (h : (write path bytes d).1 = .ok ()) :
    read path (write path bytes d).2 = .ok bytes
  /-- A file is read alike by all paths that lead to it. -/
  read_same {path other : String} {d : φ} (h : SameFile d path other) : read path d = read other d
  /-- Writing to one file leaves another, also if it fails. -/
  read_beside {path other : String} {bytes held : ByteArray} {d : φ}
    (hother : ¬SameFile (write path bytes d).2 path other) (h : read other d = .ok held) :
    read other (write path bytes d).2 = .ok held
  /-- Making directories leaves every file. -/
  read_made {path other : String} {held : ByteArray} {d : φ} (h : read other d = .ok held) :
    read other (makeDirectories path d).2 = .ok held
  /-- A path that leads to a file is shorter than 4 GiB. -/
  size_of_read {path : String} {bytes : ByteArray} {d : φ} (h : read path d = .ok bytes) :
    path.utf8ByteSize < UInt32.size

variable {φ : Type} [FileSystem φ] {SameFile : φ → String → String → Prop}

/-- So does making the directory that a path is in. -/
theorem Reliable.read_ensureParent (hfiles : Reliable φ SameFile) {other : String}
    {held : ByteArray} {d : φ} (h : read other d = .ok held) (path : String) :
    read other ((Access.ensureParent path).runOn d).2 = .ok held := by
  unfold Access.ensureParent
  split
  · exact hfiles.read_made h
  · exact h

end FileSystem

end ConsoleLink
