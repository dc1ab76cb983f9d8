import ConsoleLink.Machine.Headless
import ConsoleLink.Proofs.Disk.Outcomes
import Mathlib.Tactic

/-! # What a headless machine makes of a file

A boot, a load and a description read one file and access nothing else. What they come to is a
function of what the reading reports, be it bytes or an error.
-/

namespace ConsoleLink

namespace Access

variable {α : Type} {a : α}

theorem runOn_map_read {φ : Type} [FileSystem φ] (f : Except FileError ByteArray → α)
    (path : String) (d : φ) :
    (f <$> read path).runOn d = (f (FileSystem.read path d), d) := rfl

theorem yields_map_read_iff {f : Except FileError ByteArray → α} {path : String} :
    (f <$> read path).Yields a ↔ ∃ r, f r = a := by
  constructor
  · rintro (_ | ⟨r, ⟨⟩⟩)
    exact ⟨r, rfl⟩
  · rintro ⟨r, rfl⟩
    exact .readFile r (.done _)

end Access

namespace Headless

variable {s s' : Headless} {target : StateTarget} {r : Except FileError ByteArray}

/-- The save state that a file holds; `none` if there is no such file. -/
def savedIn : Except FileError ByteArray → Except MachineError (Option Snapshot)
  | .error e => if e.isMissing then .ok none else .error (.file e)
  | .ok bytes =>
    match Snapshot.decode? bytes with
    | some saved => .ok (some saved)
    | none => .error .undecodable

/-- What loading comes to. -/
def loadedFrom (s : Headless) (target : StateTarget) (r : Except FileError ByteArray) :
    Except MachineError Headless :=
  match savedIn r with
  | .error e => .error e
  | .ok none => .error (absent target)
  | .ok (some saved) => s.install saved

/-- What describing comes to. -/
def describedFrom (r : Except FileError ByteArray) : Except MachineError (Option StateInfo) :=
  (savedIn r).map (·.map fun saved => ⟨saved.frame, saved.game⟩)

/-- What booting comes to. -/
def bootedFrom (s : Headless) (path : String) :
    Except FileError ByteArray → Except MachineError Headless
  | .error e => .error (.file e)
  | .ok image => if image.isEmpty then .error (.emptyImage path) else .ok (s.start path image)

/-! ## One file is read -/

theorem readSnapshot_eq (s : Headless) (target : StateTarget) :
    s.readSnapshot target = savedIn <$> Access.read (s.statePath target) := by
  change Access.readFile _ _ = Access.readFile _ _
  congr 1
  funext r
  cases r with
  | error e => rfl
  | ok bytes =>
    change (match Snapshot.decode? bytes with | some saved => _ | none => _) =
      Access.done (savedIn _)
    rw [savedIn]
    cases Snapshot.decode? bytes <;> rfl

theorem load_eq (s : Headless) (target : StateTarget) :
    s.load target = s.loadedFrom target <$> Access.read (s.statePath target) := by
  rw [load, readSnapshot_eq]
  change Access.readFile _ _ = Access.readFile _ _
  congr 1
  funext r
  change (match savedIn r with | .error e => _ | .ok none => _ | .ok (some saved) => _) =
    Access.done (s.loadedFrom target r)
  rw [loadedFrom]
  rcases savedIn r with e | _ | saved <;> rfl

theorem describe_eq (s : Headless) (target : StateTarget) :
    s.describe target = describedFrom <$> Access.read (s.statePath target) := by
  rw [describe, readSnapshot_eq]
  rfl

theorem boot_eq (s : Headless) (path : String) :
    s.boot path = s.bootedFrom path <$> Access.read path := by
  change Access.readFile _ _ = Access.readFile _ _
  congr 1
  funext r
  cases r with
  | error e => rfl
  | ok image =>
    change (if image.isEmpty then _ else _) = Access.done (s.bootedFrom path _)
    rw [bootedFrom]
    split_ifs <;> rfl

/-! ## What the file has to hold -/

theorem savedIn_eq_none_iff : savedIn r = .ok none ↔ r = .error (.system .noEntry) := by
  cases r with
  | error e =>
    rw [savedIn, FileError.isMissing]
    by_cases h : e = .system .noEntry <;> simp [h]
  | ok bytes => cases h : Snapshot.decode? bytes <;> simp [savedIn, h]

theorem install_eq_ok_iff {saved : Snapshot} :
    s.install saved = .ok s' ↔ saved.ram.size = s.ram.size ∧
      s' = { s with ram := saved.ram, frame := saved.frame, game := saved.game } := by
  rw [install]
  by_cases h : saved.ram.size = s.ram.size <;> simp [h, eq_comm]

/-- Loading needs a file that is read and holds a save state of the machine's RAM size. -/
theorem loadedFrom_eq_ok_iff :
    s.loadedFrom target r = .ok s' ↔
      ∃ bytes saved, r = .ok bytes ∧ Snapshot.decode? bytes = some saved ∧
        saved.ram.size = s.ram.size ∧
        s' = { s with ram := saved.ram, frame := saved.frame, game := saved.game } := by
  rw [loadedFrom]
  cases r with
  | error e => by_cases h : e.isMissing <;> simp [savedIn, h]
  | ok bytes => cases h : Snapshot.decode? bytes <;> simp [savedIn, h, install_eq_ok_iff]

theorem describedFrom_eq_some_iff {info : StateInfo} :
    describedFrom r = .ok (some info) ↔
      ∃ bytes saved, r = .ok bytes ∧ Snapshot.decode? bytes = some saved ∧
        info = ⟨saved.frame, saved.game⟩ := by
  rw [describedFrom]
  cases r with
  | error e => by_cases h : e.isMissing <;> simp [savedIn, h, Except.map]
  | ok bytes => cases h : Snapshot.decode? bytes <;> simp [savedIn, h, Except.map, eq_comm]

/-- Nothing is described if and only if there is no file; a file that cannot be read or holds
something else is an error. -/
theorem describedFrom_eq_none_iff : describedFrom r = .ok none ↔ r = .error (.system .noEntry) := by
  rw [← savedIn_eq_none_iff, describedFrom]
  rcases savedIn r with e | _ | saved <;> simp [Except.map]

/-- What is loaded is described by its frame number and its image. -/
theorem describedFrom_of_loadedFrom (h : s.loadedFrom target r = .ok s') :
    describedFrom r = .ok (some ⟨s'.frame, s'.game⟩) := by
  obtain ⟨bytes, saved, hread, hdecode, -, rfl⟩ := loadedFrom_eq_ok_iff.mp h
  exact describedFrom_eq_some_iff.mpr ⟨bytes, saved, hread, hdecode, rfl⟩

end Headless

end ConsoleLink
