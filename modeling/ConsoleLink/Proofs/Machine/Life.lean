import ConsoleLink.Proofs.Machine.Frames
import ConsoleLink.Proofs.Machine.Orders
import ConsoleLink.Proofs.Machine.Snapshots
import ConsoleLink.Proofs.Trace

/-! # The life of a headless machine

Whatever is done to a headless machine, and whatever the files that it reads say, its RAM keeps its
size and with it the addresses that are valid. A file can change the machine only by a boot or a
load that succeeds, and a load succeeds if and only if the file holds a save state of that size.
-/

namespace ConsoleLink

/-- What can be done to a headless machine. -/
inductive HeadlessOp where
  | runFrame (pads : Pads)
  | poke (address : UInt32) (bytes : List UInt8)
  | setLive (port : Port) (pad : Pad)
  | obey (order : Order)

namespace Headless

/-! ## The size of RAM -/

@[simp] theorem size_setByte (ram : ByteArray) (address : UInt32) (b : UInt8) :
    (setByte ram address b).size = ram.size := by
  unfold setByte
  split
  · exact Array.size_set ..
  · rfl

@[simp] theorem size_setBytes (ram : ByteArray) (address : UInt32) (bytes : List UInt8) :
    (setBytes ram address bytes).size = ram.size := by
  induction bytes generalizing ram address with
  | nil => rfl
  | cons b bytes ih => rw [setBytes, ih, size_setByte]

@[simp] theorem size_publish (ram : ByteArray) (frame : UInt64) (pads : Pads) :
    (publish ram frame pads).size = ram.size := by
  unfold publish
  generalize hram : setBytes ram frameCounter (wordBytes frame.toUInt32) = published
  have hsize : published.size = ram.size := by rw [← hram, size_setBytes]
  clear hram
  generalize List.finRange portCount = ports
  induction ports generalizing published with
  | nil => exact hsize
  | cons port ports ih => exact ih _ (by rw [size_setBytes, hsize])

@[simp] theorem size_addZeros (n : Nat) (bytes : ByteArray) :
    (addZeros n bytes).size = bytes.size + n := by
  unfold addZeros
  induction n with
  | zero => rfl
  | succ n ih => rw [Nat.repeat, ByteArray.size_push, ih, Nat.add_assoc]

theorem size_ram_make (directory : String) (size : Nat) :
    (make directory size).ram.size = size := by
  rw [make, size_addZeros]
  exact Nat.zero_add size

@[simp] theorem size_imageRam (size : Nat) (image : ByteArray) :
    (imageRam size image).size = size := by
  rw [imageRam, size_addZeros, ByteArray.size_extract]
  omega

theorem size_ram_of_runFrame {s s' : Headless} {pads : Pads} (h : s.runFrame pads = some s') :
    s'.ram.size = s.ram.size := by
  rw [ram_of_runFrame h, size_publish]

/-! ## What an operation does -/

/-- What an operation makes of a machine, for some answers to its accesses. A frame that panics
leaves the machine as it is. -/
inductive Acts (s : Headless) : HeadlessOp → Headless → Prop where
  | ran {pads : Pads} {s' : Headless} (h : s.runFrame pads = some s') : Acts s (.runFrame pads) s'
  | panicked {pads : Pads} (h : s.runFrame pads = none) : Acts s (.runFrame pads) s
  | poked (address : UInt32) (bytes : List UInt8) :
      Acts s (.poke address bytes) (s.poke address bytes)
  | plugged (port : Port) (pad : Pad) : Acts s (.setLive port pad) (s.setLive port pad)
  | obeyed {order : Order} {answer : Except JobError Reply} {s' : Headless}
      (h : (obey order s).Yields (answer, s')) : Acts s (.obey order) s'

variable {s s' : Headless} {op : HeadlessOp} {ops : List HeadlessOp} {order : Order}
  {answer : Except JobError Reply}

theorem Obeyed.eq_of_error {e : JobError} (h : Obeyed s order (.error e) s') : s' = s := by
  cases h
  rfl

theorem Obeyed.size_ram (h : Obeyed s order answer s') : s'.ram.size = s.ram.size := by
  cases h with
  | refused | answered | set => rfl
  | booted => exact size_imageRam ..
  | loaded h =>
    obtain ⟨hsize, rfl⟩ := install_eq_ok_iff.mp h
    exact hsize

theorem Acts.size_ram (h : Acts s op s') : s'.ram.size = s.ram.size := by
  cases h with
  | ran h => exact size_ram_of_runFrame h
  | panicked => rfl
  | poked address bytes => exact size_setBytes ..
  | plugged => rfl
  | obeyed h => exact (obey_yields h).size_ram

/-- A load that succeeds on what some file says is among what can be done. -/
theorem Acts.loaded {target : StateTarget} {r : Except FileError ByteArray}
    (h : s.loadedFrom target r = .ok s') : Acts s (.obey (.load target)) s' := by
  refine .obeyed (Access.yields_bind_iff.mpr ⟨.ok s', ?_, Access.yields_pure_iff.mpr rfl⟩)
  rw [load_eq]
  exact Access.yields_map_read_iff.mpr ⟨r, h⟩

theorem Acts.booted {path : String} {r : Except FileError ByteArray}
    (h : s.bootedFrom path r = .ok s') : Acts s (.obey (.boot path)) s' := by
  refine .obeyed (Access.yields_bind_iff.mpr ⟨.ok s', ?_, Access.yields_pure_iff.mpr rfl⟩)
  rw [boot_eq]
  exact Access.yields_map_read_iff.mpr ⟨r, h⟩

theorem size_ram_trace (h : Trace Acts s ops s') : s'.ram.size = s.ram.size :=
  h.keeps (·.ram.size = s.ram.size) (fun hs hstep => hstep.size_ram.trans hs) rfl

/-- The valid addresses are those of a RAM of that size. -/
theorem isValid_eq_of_size_ram (h : s'.ram.size = s.ram.size) :
    s'.memory.isValid = s.memory.isValid := by
  funext address
  change (offset? s'.ram.size address).isSome = (offset? s.ram.size address).isSome
  rw [h]

/-! ## Files and the machine -/

/-- An order that is not obeyed leaves the machine as it is, whatever made it fail. A load and a
description come to what the file of their target makes of them: loading succeeds if and only if
the file is read and holds a save state with RAM of the machine's size, and puts back its RAM, its
frame number and its image and nothing else; what can be loaded is described by what loading puts
back; and nothing is described if and only if there is no file. Whatever a machine goes through, the
size of its RAM and its valid addresses stay the same. -/
theorem outcomes_of_files (s : Headless) :
    (∀ order e s', (obey order s).Yields (.error e, s') → s' = s) ∧
    (∀ target,
      s.load target = s.loadedFrom target <$> Access.read (s.statePath target) ∧
      s.describe target = describedFrom <$> Access.read (s.statePath target) ∧
      ∀ r : Except FileError ByteArray,
        (∀ s', s.loadedFrom target r = .ok s' ↔
          ∃ bytes saved, r = .ok bytes ∧ Snapshot.decode? bytes = some saved ∧
            saved.ram.size = s.ram.size ∧
            s' = { s with ram := saved.ram, frame := saved.frame, game := saved.game }) ∧
        (∀ s', s.loadedFrom target r = .ok s' →
          describedFrom r = .ok (some ⟨s'.frame, s'.game⟩)) ∧
        (describedFrom r = .ok none ↔ r = .error (.system .noEntry))) ∧
    ∀ ops s', Trace Acts s ops s' →
      s'.ram.size = s.ram.size ∧ s'.memory.isValid = s.memory.isValid := by
  refine ⟨fun order e s' h => (obey_yields h).eq_of_error, fun target => ?_, fun ops s' h => ?_⟩
  · refine ⟨load_eq s target, describe_eq s target, fun r => ⟨fun s' => ?_, fun s' h => ?_, ?_⟩⟩
    · exact loadedFrom_eq_ok_iff
    · exact describedFrom_of_loadedFrom h
    · exact describedFrom_eq_none_iff
  · have hsize := size_ram_trace h
    exact ⟨hsize, isValid_eq_of_size_ram hsize⟩

/-- A machine with four bytes of RAM cannot boot from an empty disk; it loads a save state, boots an
image of six bytes and still has four bytes. -/
theorem outcomes_of_files_longImage :
    let s := make "s" 4
    let slot : StateTarget := .slot ⟨3, by decide⟩
    let saved : Snapshot := ⟨7, some "g", ⟨#[1, 2, 3, 4]⟩⟩
    let restored := { s with ram := saved.ram, frame := 7, game := some "g" }
    let later := restored.start "l" ⟨#[1, 2, 3, 4, 5, 6]⟩
    ((obey (.boot "l") s).runOn ({} : Disk)).1.1 =
      .error (MachineError.file (.system .noEntry)).toJobError ∧
    ((obey (.boot "l") s).runOn ({} : Disk)).1.2 = s ∧
    s.loadedFrom slot (.ok saved.encode) = .ok restored ∧
    describedFrom (.ok saved.encode) = .ok (some ⟨7, some "g"⟩) ∧
    describedFrom (.error (.system .noEntry)) = .ok none ∧
    Trace Acts s [.obey (.load slot), .obey (.boot "l")] later ∧
    later.ram.size = s.ram.size ∧ later.memory.isValid = s.memory.isValid := by
  intro s slot saved restored later
  obtain ⟨herror, hfile, hlife⟩ := outcomes_of_files s
  obtain ⟨hload, -, hread⟩ := hfile slot
  have hfailed : ((obey (.boot "l") s).runOn ({} : Disk)).1.1 =
      .error (MachineError.file (.system .noEntry)).toJobError := rfl
  have hsame : ((obey (.boot "l") s).runOn ({} : Disk)).1.2 = s := by
    refine herror (.boot "l") (MachineError.file (.system .noEntry)).toJobError _ ?_
    rw [← hfailed]
    exact Access.yields_runOn (obey (.boot "l") s) ({} : Disk)
  have hfits : saved.Fits := ⟨fun game hgame => Option.some.inj hgame ▸ by decide, by decide⟩
  have hloaded : s.loadedFrom slot (.ok saved.encode) = .ok restored :=
    ((hread _).1 restored).mpr ⟨_, saved, rfl, Snapshot.decode?_encode hfits, by decide, rfl⟩
  have hbooted : Acts restored (.obey (.boot "l")) later :=
    .booted (r := .ok ⟨#[1, 2, 3, 4, 5, 6]⟩) rfl
  have htrace : Trace Acts s [.obey (.load slot), .obey (.boot "l")] later :=
    .next (.loaded hloaded) (.one hbooted)
  exact ⟨hfailed, hsame, hloaded, (hread _).2.1 restored hloaded, (hread _).2.2.mpr rfl, htrace,
    hlife _ later htrace⟩

end Headless

end ConsoleLink
