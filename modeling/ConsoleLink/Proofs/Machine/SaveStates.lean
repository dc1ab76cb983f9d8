import ConsoleLink.Proofs.Disk.Files
import ConsoleLink.Proofs.Machine.Life
import ConsoleLink.Proofs.Machine.Snapshots

/-! # A machine goes back to where it was saved

Whatever is done to the headless machine and its files between saving and loading, as long as no
save goes to the same file, loading puts back the RAM, the frame number and the image of the moment
of saving and nothing else. A save state can be loaded by every target whose path leads to its file.
What is said of files holds of any that can be relied on, a disk among them.
-/

namespace ConsoleLink

namespace Headless

variable {φ : Type} [FileSystem φ] {SameFile : φ → String → String → Prop}
  {s s' : Headless} {d d' : φ} {target : StateTarget}

/-! ## Files -/

/-- Saving makes directories and then, if nothing fails, writes the save state. -/
theorem save_cases (s : Headless) (target : StateTarget) (d : φ) :
    (∃ e, (s.save target).runOn d =
      (.error e, ((Access.ensureParent (s.statePath target)).runOn d).2)) ∨
    ∃ made r, made = ((Access.ensureParent (s.statePath target)).runOn d).2 ∧
      r = FileSystem.write (s.statePath target) s.snapshot.encode made ∧
      (s.save target).runOn d = (r.1.mapError .file, r.2) := by
  unfold save
  rw [Access.runOn_bind]
  cases ((Access.ensureParent (s.statePath target)).runOn d).1 with
  | error e => exact .inl ⟨_, rfl⟩
  | ok u => exact .inr ⟨_, _, rfl, rfl, rfl⟩

theorem load_cases (s : Headless) (target : StateTarget) (d : φ) :
    (∃ e, (s.load target).runOn d = (.error e, d)) ∨
    ∃ bytes saved, FileSystem.read (s.statePath target) d = .ok bytes ∧
      Snapshot.decode? bytes = some saved ∧ saved.ram.size = s.ram.size ∧
      (s.load target).runOn d =
        (.ok { s with ram := saved.ram, frame := saved.frame, game := saved.game }, d) := by
  rw [load_eq, Access.runOn_map_read]
  cases hloaded : s.loadedFrom target (FileSystem.read (s.statePath target) d) with
  | error e => exact .inl ⟨e, rfl⟩
  | ok s' =>
    obtain ⟨bytes, saved, hread, hdecode, hsize, rfl⟩ := loadedFrom_eq_ok_iff.mp hloaded
    exact .inr ⟨bytes, saved, hread, hdecode, hsize, rfl⟩

/-- A save state that is read is loaded. -/
theorem load_of_read {saved : Snapshot}
    (hread : FileSystem.read (s.statePath target) d = .ok saved.encode) (hfits : saved.Fits)
    (hsize : saved.ram.size = s.ram.size) :
    (s.load target).runOn d =
      (.ok { s with ram := saved.ram, frame := saved.frame, game := saved.game }, d) := by
  have hdecode := Snapshot.decode?_encode hfits
  rw [load_eq, Access.runOn_map_read,
    loadedFrom_eq_ok_iff.mpr ⟨_, saved, hread, hdecode, hsize, rfl⟩]

theorem describe_of_read {saved : Snapshot}
    (hread : FileSystem.read (s.statePath target) d = .ok saved.encode) (hfits : saved.Fits) :
    (s.describe target).runOn d = (.ok (some ⟨saved.frame, saved.game⟩), d) := by
  have hdecode := Snapshot.decode?_encode hfits
  rw [describe_eq, Access.runOn_map_read,
    describedFrom_eq_some_iff.mpr ⟨_, saved, hread, hdecode, rfl⟩]

/-! ## What an operation does -/

/-- What becomes of a machine and its files. A frame that panics leaves both as they are. -/
def act (op : HeadlessOp) (x : Headless × φ) : Headless × φ :=
  match op with
  | .runFrame pads => (x.1.afterFrame pads, x.2)
  | .poke address bytes => (x.1.poke address bytes, x.2)
  | .setLive port pad => (x.1.setLive port pad, x.2)
  | .obey order => (((obey order x.1).runOn x.2).1.2, ((obey order x.1).runOn x.2).2)

/-- What becomes of a machine and its files in a sequence of operations. -/
def run (ops : List HeadlessOp) (x : Headless × φ) : Headless × φ :=
  ops.foldl (fun x op => act op x) x

/-- All that an order does to the machine and the files. -/
theorem act_obey (order : Order) (s : Headless) (d : φ) :
    (∃ path image, FileSystem.read path d = .ok image ∧
      act (.obey order) (s, d) = (s.start path image, d)) ∨
    (∃ target bytes saved, FileSystem.read (s.statePath target) d = .ok bytes ∧
      Snapshot.decode? bytes = some saved ∧ saved.ram.size = s.ram.size ∧
      act (.obey order) (s, d) =
        ({ s with ram := saved.ram, frame := saved.frame, game := saved.game }, d)) ∨
    (∃ state, act (.obey order) (s, d) = ({ s with runState := state }, d)) ∨
    (∃ target, order = .save target ∧
      act (.obey order) (s, d) = (s, ((s.save target).runOn d).2)) ∨
    act (.obey order) (s, d) = (s, d) := by
  unfold act obey
  cases order with
  | boot path =>
    dsimp only
    rw [Access.runOn_bind, boot_eq, Access.runOn_map_read]
    cases hread : FileSystem.read path d with
    | error e => exact .inr (.inr (.inr (.inr rfl)))
    | ok image =>
      dsimp only [bootedFrom]
      split_ifs
      · exact .inr (.inr (.inr (.inr rfl)))
      · exact .inl ⟨path, image, hread, rfl⟩
  | save target =>
    dsimp only
    rw [Access.runOn_bind]
    exact .inr (.inr (.inr (.inl ⟨target, rfl, rfl⟩)))
  | load target =>
    dsimp only
    rw [Access.runOn_bind]
    obtain ⟨e, h⟩ | ⟨bytes, saved, hread, hdecode, hsize, h⟩ := load_cases s target d
    · rw [h]
      exact .inr (.inr (.inr (.inr rfl)))
    · rw [h]
      exact .inr (.inl ⟨target, bytes, saved, hread, hdecode, hsize, rfl⟩)
  | describe target =>
    dsimp only
    rw [Access.runOn_bind, describe_eq, Access.runOn_map_read]
    exact .inr (.inr (.inr (.inr rfl)))
  | setRunState state => exact .inr (.inr (.inl ⟨state, rfl⟩))
  | reportRunState => exact .inr (.inr (.inr (.inr rfl)))
  | grabFrame => exact .inr (.inr (.inr (.inr rfl)))

theorem acts_act (op : HeadlessOp) (x : Headless × φ) : Acts x.1 op (act op x).1 := by
  cases op with
  | runFrame pads =>
    obtain hran | ⟨hpanicked, hsame⟩ := afterFrame_cases pads x.1
    · exact .ran hran
    · rw [act, hsame]
      exact .panicked hpanicked
  | poke address bytes => exact .poked address bytes
  | setLive port pad => exact .plugged port pad
  | obey order => exact .obeyed (Access.yields_runOn (obey order x.1) x.2)

theorem size_ram_act (op : HeadlessOp) (x : Headless × φ) :
    (act op x).1.ram.size = x.1.ram.size := (acts_act op x).size_ram

theorem stateDirectory_act (op : HeadlessOp) (x : Headless × φ) :
    (act op x).1.stateDirectory = x.1.stateDirectory := by
  obtain ⟨s, d⟩ := x
  cases op with
  | runFrame pads =>
    obtain hran | ⟨-, hsame⟩ := afterFrame_cases pads s
    · exact stateDirectory_of_runFrame hran
    · rw [act, hsame]
  | poke address bytes => rfl
  | setLive port pad => rfl
  | obey order =>
    obtain ⟨path, image, -, h⟩ | ⟨target, bytes, saved, -, -, -, h⟩ | ⟨state, h⟩ |
      ⟨target, -, h⟩ | h := act_obey order s d
    · rw [h]
      rfl
    all_goals rw [h]

/-- A machine whose save state can be read back stays one: an image has a path that leads to a file,
and a save state that is read could be written. -/
theorem fits_act (hfiles : FileSystem.Reliable φ SameFile) (op : HeadlessOp) (x : Headless × φ)
    (hfits : x.1.snapshot.Fits) : (act op x).1.snapshot.Fits := by
  refine ⟨?_, (size_ram_act op x).trans_lt hfits.ram⟩
  obtain ⟨s, d⟩ := x
  cases op with
  | runFrame pads =>
    rintro game hgame
    refine hfits.game game (Eq.trans ?_ hgame)
    obtain hran | ⟨-, hsame⟩ := afterFrame_cases pads s
    · exact (game_of_runFrame hran).symm
    · rw [act, hsame]
  | poke address bytes => exact hfits.game
  | setLive port pad => exact hfits.game
  | obey order =>
    obtain ⟨path, image, hread, h⟩ | ⟨target, bytes, saved, -, hdecode, -, h⟩ | ⟨state, h⟩ |
      ⟨target, -, h⟩ | h := act_obey order s d <;> rw [h]
    · rintro game hgame
      cases hgame
      exact hfiles.size_of_read hread
    · exact Snapshot.game_of_decode? hdecode
    · exact hfits.game
    · exact hfits.game
    · exact hfits.game

/-- Nothing but a save to the same file changes what a path reads. -/
theorem read_act (hfiles : FileSystem.Reliable φ SameFile) {op : HeadlessOp} {x : Headless × φ}
    {path : String} {held : ByteArray} (h : FileSystem.read path x.2 = .ok held)
    (hspared : ∀ target, op = .obey (.save target) →
      ¬SameFile (act op x).2 (x.1.statePath target) path) :
    FileSystem.read path (act op x).2 = .ok held := by
  obtain ⟨s, d⟩ := x
  cases op with
  | runFrame pads => exact h
  | poke address bytes => exact h
  | setLive port pad => exact h
  | obey order =>
    obtain ⟨_, _, -, hact⟩ | ⟨_, _, _, -, -, -, hact⟩ | ⟨state, hact⟩ | ⟨target, rfl, hact⟩ |
      hact := act_obey order s d
    case inr.inr.inr.inl =>
      have hother := hspared target rfl
      rw [hact] at hother ⊢
      have hmade := hfiles.read_ensureParent h (s.statePath target)
      obtain ⟨e, hsave⟩ | ⟨made, r, rfl, rfl, hsave⟩ := save_cases s target d
      · rw [hsave]
        exact hmade
      · rw [hsave] at hother ⊢
        exact hfiles.read_beside hother hmade
    all_goals rw [hact]; exact h

/-! ## Sequences of operations -/

/-- No operation saves to the file that a path leads to. Where a save goes is judged when it is
done, since the directories that it makes can change where a path leads. -/
def Spares (SameFile : φ → String → String → Prop) (path : String) :
    List HeadlessOp → Headless × φ → Prop
  | [], _ => True
  | op :: ops, x =>
    (∀ target, op = .obey (.save target) → ¬SameFile (act op x).2 (x.1.statePath target) path) ∧
    Spares SameFile path ops (act op x)

theorem read_run (hfiles : FileSystem.Reliable φ SameFile) {ops : List HeadlessOp}
    {x : Headless × φ} {path : String} {held : ByteArray}
    (h : FileSystem.read path x.2 = .ok held) (hspared : Spares SameFile path ops x) :
    FileSystem.read path (run ops x).2 = .ok held := by
  induction ops generalizing x with
  | nil => exact h
  | cons op ops ih => exact ih (read_act hfiles h hspared.1) hspared.2

/-- What every operation keeps is kept by all of them together. -/
theorem run_keeps (I : Headless × φ → Prop)
    (hact : ∀ (op : HeadlessOp) (x : Headless × φ), I x → I (act op x))
    (ops : List HeadlessOp) (x : Headless × φ) (hx : I x) : I (run ops x) := by
  induction ops generalizing x with
  | nil => exact hx
  | cons op ops ih => exact ih _ (hact op x hx)

theorem stateDirectory_run (ops : List HeadlessOp) (x : Headless × φ) :
    (run ops x).1.stateDirectory = x.1.stateDirectory :=
  run_keeps (·.1.stateDirectory = x.1.stateDirectory)
    (fun op y hy => (stateDirectory_act op y).trans hy) ops x rfl

theorem size_ram_run (ops : List HeadlessOp) (x : Headless × φ) :
    (run ops x).1.ram.size = x.1.ram.size :=
  run_keeps (·.1.ram.size = x.1.ram.size) (fun op y hy => (size_ram_act op y).trans hy) ops x rfl

theorem fits_run (hfiles : FileSystem.Reliable φ SameFile) (ops : List HeadlessOp)
    (x : Headless × φ) (hfits : x.1.snapshot.Fits) : (run ops x).1.snapshot.Fits :=
  run_keeps (·.1.snapshot.Fits) (fits_act hfiles) ops x hfits

theorem fits_make (directory : String) {size : Nat} (h : size < UInt32.size) :
    (make directory size).snapshot.Fits := by
  exact ⟨nofun, (size_ram_make directory size).trans_lt h⟩

/-- After a save the file holds the save state. -/
theorem read_save (hfiles : FileSystem.Reliable φ SameFile)
    (hsaved : (s.save target).runOn d = (.ok (), d')) :
    FileSystem.read (s.statePath target) d' = .ok s.snapshot.encode := by
  obtain ⟨e, herror⟩ | ⟨made, r, rfl, rfl, hsave⟩ := save_cases s target d
  · cases hsaved.symm.trans herror
  · obtain ⟨hok, rfl⟩ := Prod.mk.inj (hsaved.symm.trans hsave)
    exact hfiles.read_written (mapError_eq_ok.mp hok.symm)

/-- Whatever a machine and its files go through after a save that succeeds, as long as no save goes
to the same file, every target whose path leads there loads that save: RAM, frame number and image
are those of the moment of saving, all else is as it was just before loading, and the save state is
described by its frame number and image. The lengths that a save state must have for that are those
of every machine that has been switched on with less than 4 GiB of RAM. -/
theorem load_after_save (hfiles : FileSystem.Reliable φ SameFile) :
    (∀ directory size before (d : φ), size < UInt32.size →
      (run before (make directory size, d)).1.snapshot.Fits) ∧
    ∀ (s : Headless) (target : StateTarget) (d saved : φ) (ops : List HeadlessOp),
      s.snapshot.Fits → (s.save target).runOn d = (.ok (), saved) →
      Spares SameFile (s.statePath target) ops (s, saved) →
      ∀ s' d', run ops (s, saved) = (s', d') → s'.statePath target = s.statePath target ∧
        ∀ target', s'.statePath target' = s.statePath target ∨
            SameFile d' (s'.statePath target') (s.statePath target) →
          let restored := { s' with ram := s.ram, frame := s.frame, game := s.game }
          (s'.load target').runOn d' = (.ok restored, d') ∧
          (restored.describe target').runOn d' = (.ok (some ⟨s.frame, s.game⟩), d') ∧
          (s'.describe target').runOn d' = (.ok (some ⟨s.frame, s.game⟩), d') := by
  refine ⟨fun directory size before d hsize =>
    fits_run hfiles before _ (fits_make directory hsize), ?_⟩
  intro s target d saved ops hfits hsaved hspared s' d' hrun
  have hdirectory := stateDirectory_run ops (s, saved)
  have hsize := size_ram_run ops (s, saved)
  have hheld := read_run hfiles (x := (s, saved)) (read_save hfiles hsaved) hspared
  rw [hrun] at hdirectory hsize hheld
  refine ⟨?_, fun target' hsame => ?_⟩
  · cases target with
    | slot n => rw [statePath, statePath, hdirectory]
    | file path => rfl
  · have hread : FileSystem.read (s'.statePath target') d' = .ok s.snapshot.encode := by
      obtain hpath | hsame := hsame
      · rwa [hpath]
      · exact (hfiles.read_same hsame).trans hheld
    have hrestored : ({ s' with ram := s.ram, frame := s.frame, game := s.game } :
        Headless).statePath target' = s'.statePath target' := by
      cases target' <;> rfl
    refine ⟨load_of_read hread hfits hsize.symm, ?_, describe_of_read hread hfits⟩
    exact describe_of_read (hrestored ▸ hread) hfits

/-- A save state in a slot is loaded by an absolute path to the same file, after another machine
state was saved elsewhere, in a file that has the same path from the root, and that file was
booted. -/
theorem load_after_save_absolutePath :
    let s := (make "s" 4).poke ramBase [0x7F, 0x80]
    let slot : StateTarget := .slot ⟨3, by decide⟩
    let d := Disk.inside ["home", "player"]
    let saved := ((s.save slot).runOn d).2
    let ops : List HeadlessOp := [.runFrame (.replicate portCount .neutral),
      .obey (.save (.file "/s/slot_03.state")), .obey (.boot "../../s/slot_03.state")]
    let later := run ops (s, saved)
    let restored := { later.1 with ram := s.ram, frame := 0, game := none }
    s.snapshot.Fits ∧ (s.save slot).runOn d = (.ok (), saved) ∧
    Spares Disk.SameFile (s.statePath slot) ops (s, saved) ∧
    later.2.SameFile "/home/player/s/../s//slot_03.state" (s.statePath slot) ∧
    (later.1.load (.file "/home/player/s/../s//slot_03.state")).runOn later.2 =
      (.ok restored, later.2) := by
  intro s slot d saved ops later restored
  have hsaves := load_after_save Disk.reliable
  have hfits : s.snapshot.Fits := hsaves.1 "s" 4 [.poke ramBase [0x7F, 0x80]] {} (by decide)
  have hsaved : (s.save slot).runOn d = (.ok (), saved) := Prod.ext (by decide +kernel) rfl
  have hspared : Spares Disk.SameFile (s.statePath slot) ops (s, saved) := by
    refine ⟨nofun, fun target hop => ?_, nofun, trivial⟩
    cases hop
    exact Disk.not_sameFile (by decide +kernel)
  have hsame : later.2.SameFile "/home/player/s/../s//slot_03.state" (s.statePath slot) :=
    ⟨"home/player/s/slot_03.state", by decide +kernel, by decide +kernel⟩
  have hlater := hsaves.2 s slot d saved ops hfits hsaved hspared later.1 later.2
    (Prod.mk.eta).symm
  exact ⟨hfits, hsaved, hspared, hsame, (hlater.2 (.file _) (.inr hsame)).1⟩

end Headless

end ConsoleLink
