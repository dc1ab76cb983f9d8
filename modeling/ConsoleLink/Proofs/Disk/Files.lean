import ConsoleLink.Proofs.Disk.Reliable
import ConsoleLink.Proofs.Except
import ConsoleLink.Proofs.NameMap.Order

/-! # A disk can be relied on

Nothing takes a directory away, so a path that leads somewhere goes on leading there. What was
written last to a file is what is read from it, by whatever path that leads to it.
-/

namespace ConsoleLink

namespace Disk

variable {d d' d'' : Disk} {path : String} {bytes : ByteArray}

/-- The key of the file that a path leads to, which may or may not be there. -/
def fileKey? (d : Disk) (path : String) : Option String :=
  match d.locate path with
  | .ok (.named directory name false) =>
    if maxNameBytes < name.utf8ByteSize then none else some (keyOf directory name)
  | _ => none

/-- Two paths lead to one file. -/
def SameFile (d : Disk) (path other : String) : Prop :=
  ∃ key, d.fileKey? path = some key ∧ d.fileKey? other = some key

theorem not_sameFile {other : String} (h : d.fileKey? path ≠ d.fileKey? other) :
    ¬d.SameFile path other := fun ⟨_, hpath, hother⟩ => h (hpath.trans hother.symm)

/-- What is under a key. -/
def at? (d : Disk) (key : String) : Option DiskEntry := NameMap.find? key d.entries

/-! ## Directories stay -/

/-- Every directory of one disk is a directory of another, and both have the same working
directory. -/
structure Keeps (d d' : Disk) : Prop where
  working : d'.working = d.working
  directories : ∀ key, d.at? key = some .directory → d'.at? key = some .directory

theorem Keeps.enter (h : d.Keeps d') {directory next : Location} {name : String}
    (henter : d.enter directory name = .ok next) : d'.enter directory name = .ok next := by
  unfold Disk.enter lookup at henter ⊢
  split_ifs at henter ⊢ with hdot hup hlong
  · exact henter
  · exact henter
  · cases hentry : d.find? directory name with
    | none =>
      rw [hentry] at henter
      cases henter
    | some entry =>
      rw [hentry] at henter
      cases entry with
      | file bytes => cases henter
      | directory =>
        have hkept : d'.find? directory name = some .directory := h.directories _ hentry
        rw [hkept]
        exact henter

theorem Keeps.foldlM_enter (h : d.Keeps d') {names : List String} {directory last : Location}
    (hfold : names.foldlM d.enter directory = .ok last) :
    names.foldlM d'.enter directory = .ok last := by
  induction names generalizing directory with
  | nil => exact hfold
  | cons name names ih =>
    rw [List.foldlM_cons] at hfold ⊢
    obtain ⟨next, henter, hfold⟩ := bind_eq_ok.mp hfold
    exact bind_eq_ok.mpr ⟨next, h.enter henter, ih hfold⟩

/-- A path that leads somewhere goes on leading there. -/
theorem Keeps.locate (h : d.Keeps d') {place : Place} (hplace : d.locate path = .ok place) :
    d'.locate path = .ok place := by
  have horigin : d'.origin path = d.origin path := by rw [origin, origin, h.working]
  unfold Disk.locate at hplace ⊢
  rw [horigin]
  split_ifs at hplace ⊢
  split at hplace
  · exact hplace
  · obtain ⟨directory, hfold, hlast⟩ := bind_eq_ok.mp (mapError_eq_ok.mp hplace)
    refine mapError_eq_ok.mpr (bind_eq_ok.mpr ⟨directory, h.foldlM_enter hfold, ?_⟩)
    split_ifs at hlast ⊢
    · obtain ⟨next, henter, hnext⟩ := bind_eq_ok.mp hlast
      exact bind_eq_ok.mpr ⟨next, h.enter henter, hnext⟩
    · exact hlast

theorem Keeps.fileKey? (h : d.Keeps d') {key : String} (hkey : d.fileKey? path = some key) :
    d'.fileKey? path = some key := by
  unfold Disk.fileKey? at hkey ⊢
  split at hkey
  · rename_i hplace
    rw [h.locate hplace]
    exact hkey
  · cases hkey

/-! ## Reading and writing -/

/-- What is read where a path leads that may lead to a file. -/
def readEntry : Option DiskEntry → Except FileError ByteArray
  | none => .error (.system .noEntry)
  | some .directory => .error (.system .isDirectory)
  | some (.file bytes) => .ok bytes

theorem read_of_fileKey? {key : String} (hkey : d.fileKey? path = some key) :
    d.read path = readEntry (d.at? key) := by
  unfold fileKey? at hkey
  split at hkey
  · rename_i directory name hplace
    split_ifs at hkey with hlong
    obtain rfl := Option.some.inj hkey
    have hfound : d.lookup directory name = .ok (d.at? (keyOf directory name)) := if_neg hlong
    rw [read, bind_of_ok hplace]
    dsimp only
    rw [hfound]
    rcases d.at? (keyOf directory name) with _ | _ | bytes <;> rfl
  · cases hkey

/-- A path that is read leads to a file. -/
theorem read_eq_ok_iff :
    d.read path = .ok bytes ↔
      ∃ key, d.fileKey? path = some key ∧ d.at? key = some (.file bytes) := by
  constructor
  · intro h
    unfold read at h
    obtain ⟨place, hplace, h⟩ := bind_eq_ok.mp h
    cases place with
    | here directory => cases h
    | named directory name slash =>
      obtain ⟨found, hfound, h⟩ := bind_eq_ok.mp h
      have hfound := mapError_eq_ok.mp hfound
      unfold lookup at hfound
      split_ifs at hfound with hlong
      have hat : d.at? (keyOf directory name) = found := Except.ok.inj hfound
      rcases found with _ | _ | held
      · cases h
      · cases h
      · cases slash with
        | true => cases h
        | false =>
          cases h
          exact ⟨_, by simp only [fileKey?, hplace, if_neg hlong], hat⟩
  · rintro ⟨key, hkey, hat⟩
    rw [read_of_fileKey? hkey, hat]
    rfl

/-- A path that can be read is short. -/
theorem length_of_read (h : d.read path = .ok bytes) : path.utf8ByteSize < pathLimit := by
  unfold read at h
  obtain ⟨place, hplace, -⟩ := bind_eq_ok.mp h
  unfold locate at hplace
  split_ifs at hplace with hzero hempty hlong
  exact Nat.lt_of_not_le hlong

/-- A disk with something under a key. -/
def withEntry (d : Disk) (key : String) (entry : DiskEntry) : Disk :=
  { d with entries := NameMap.insert key entry d.entries }

theorem at?_withEntry (d : Disk) (key other : String) (entry : DiskEntry) :
    (d.withEntry key entry).at? other = if other = key then some entry else d.at? other :=
  NameMap.find?_insert key other entry d.entries

/-- Writing puts a file under the key of its path, where no directory is. -/
theorem write_spec (h : d.write path bytes = .ok d') :
    ∃ key, d.fileKey? path = some key ∧ d.at? key ≠ some .directory ∧
      d' = d.withEntry key (.file bytes) := by
  unfold write at h
  obtain ⟨place, hplace, h⟩ := bind_eq_ok.mp h
  cases place with
  | here directory => cases h
  | named directory name slash =>
    dsimp only at h
    split_ifs at h with hslash
    obtain ⟨found, hfound, h⟩ := bind_eq_ok.mp h
    have hfound := mapError_eq_ok.mp hfound
    unfold lookup at hfound
    split_ifs at hfound with hlong
    have hat : d.at? (keyOf directory name) = found := Except.ok.inj hfound
    refine ⟨keyOf directory name, ?_, ?_, ?_⟩
    · rw [Bool.not_eq_true] at hslash
      subst hslash
      simp only [fileKey?, hplace, if_neg hlong]
    · rintro hdirectory
      rw [hat] at hdirectory
      subst hdirectory
      cases h
    · split at h
      · cases h
      · exact (Except.ok.inj h).symm

theorem keeps_write (h : d.write path bytes = .ok d') : d.Keeps d' := by
  obtain ⟨key, -, hkey, rfl⟩ := write_spec h
  refine ⟨rfl, fun other hother => ?_⟩
  rw [at?_withEntry, if_neg, hother]
  rintro rfl
  exact hkey hother

/-- What is written is read back by its path. -/
theorem read_of_write (h : d.write path bytes = .ok d') : d'.read path = .ok bytes := by
  have hkeeps := keeps_write h
  obtain ⟨key, hkey, -, rfl⟩ := write_spec h
  exact read_eq_ok_iff.mpr ⟨key, hkeeps.fileKey? hkey, by rw [at?_withEntry, if_pos rfl]⟩

/-- Writing leaves what is read by a path to another file. -/
theorem read_of_write_beside (h : d.write path bytes = .ok d') {other : String} {held : ByteArray}
    (hother : ¬d'.SameFile path other) (hread : d.read other = .ok held) :
    d'.read other = .ok held := by
  obtain ⟨key, hkey, hat⟩ := read_eq_ok_iff.mp hread
  have hkeeps := keeps_write h
  obtain ⟨own, hown, -, rfl⟩ := write_spec h
  refine read_eq_ok_iff.mpr ⟨key, hkeeps.fileKey? hkey, ?_⟩
  rw [at?_withEntry, if_neg, hat]
  rintro rfl
  exact hother ⟨key, hkeeps.fileKey? hown, hkeeps.fileKey? hkey⟩

/-! ## Making directories -/

/-- Whatever is on one disk is on another, and both have the same working directory. -/
structure Extends (d d' : Disk) : Prop where
  working : d'.working = d.working
  entries : ∀ key entry, d.at? key = some entry → d'.at? key = some entry

theorem Extends.refl (d : Disk) : d.Extends d := ⟨rfl, fun _ _ h => h⟩

theorem Extends.trans (h : d.Extends d') (h' : d'.Extends d'') : d.Extends d'' :=
  ⟨h'.working.trans h.working,
    fun key entry hkey => h'.entries key entry (h.entries key entry hkey)⟩

theorem Extends.keeps (h : d.Extends d') : d.Keeps d' := ⟨h.working, fun key => h.entries key _⟩

theorem Extends.read (h : d.Extends d') (hread : d.read path = .ok bytes) :
    d'.read path = .ok bytes := by
  obtain ⟨key, hkey, hat⟩ := read_eq_ok_iff.mp hread
  exact read_eq_ok_iff.mpr ⟨key, h.keeps.fileKey? hkey, h.entries _ _ hat⟩

theorem extends_makeDirectory (h : d.makeDirectory path = .ok d') : d.Extends d' := by
  unfold makeDirectory at h
  obtain ⟨place, -, h⟩ := bind_eq_ok.mp h
  cases place with
  | here directory => cases h
  | named directory name slash =>
    obtain ⟨found, hfound, h⟩ := bind_eq_ok.mp h
    have hfound := mapError_eq_ok.mp hfound
    unfold lookup at hfound
    split_ifs at hfound
    have hat : d.at? (keyOf directory name) = found := Except.ok.inj hfound
    cases found with
    | some entry => cases h
    | none =>
      obtain rfl : d.withEntry (keyOf directory name) .directory = d' := Except.ok.inj h
      refine ⟨rfl, fun key entry hkey => ?_⟩
      rw [at?_withEntry, if_neg, hkey]
      rintro rfl
      rw [hat] at hkey
      cases hkey

theorem extends_makeChain (d : Disk) (paths : List String) : d.Extends (d.makeChain paths).2 := by
  induction paths generalizing d with
  | nil => exact .refl d
  | cons path above ih =>
    unfold makeChain
    split
    · rename_i hmade
      exact extends_makeDirectory hmade
    · split_ifs
      · have habove := ih d
        split
        · rename_i hchain
          rwa [hchain] at habove
        · rename_i hchain
          rw [hchain] at habove
          split
          · rename_i hmade
            exact habove.trans (extends_makeDirectory hmade)
          · exact habove
      · exact .refl d
      · exact .refl d

theorem extends_makeDirectories (d : Disk) (path : String) :
    d.Extends (d.makeDirectories path).2 := by
  unfold makeDirectories
  split_ifs
  · exact .refl d
  · exact extends_makeChain d _

/-! ## All that is relied on -/

theorem tryWrite_cases (d : Disk) (path : String) (bytes : ByteArray) :
    (∃ e, d.tryWrite path bytes = (.error e, d)) ∨
      ∃ d', d.write path bytes = .ok d' ∧ d.tryWrite path bytes = (.ok (), d') := by
  unfold tryWrite
  cases d.write path bytes with
  | error e => exact .inl ⟨e, rfl⟩
  | ok d' => exact .inr ⟨d', rfl, rfl⟩

theorem reliable : FileSystem.Reliable Disk SameFile where
  read_written {path bytes d} h := by
    change (d.tryWrite path bytes).1 = _ at h
    change (d.tryWrite path bytes).2.read path = _
    obtain ⟨e, hfailed⟩ | ⟨d', hwrite, hdone⟩ := d.tryWrite_cases path bytes
    · rw [hfailed] at h
      cases h
    · rw [hdone]
      exact read_of_write hwrite
  read_same {path other d} := by
    rintro ⟨key, hpath, hother⟩
    exact (read_of_fileKey? hpath).trans (read_of_fileKey? hother).symm
  read_beside {path other bytes held d} hother h := by
    change ¬(d.tryWrite path bytes).2.SameFile path other at hother
    change (d.tryWrite path bytes).2.read other = _
    obtain ⟨e, hfailed⟩ | ⟨d', hwrite, hdone⟩ := d.tryWrite_cases path bytes
    · rw [hfailed]
      exact h
    · rw [hdone] at hother ⊢
      exact read_of_write_beside hwrite hother h
  read_made {path other held d} h := (extends_makeDirectories d path).read h
  size_of_read h := (length_of_read h).trans (by decide)

end Disk

end ConsoleLink
