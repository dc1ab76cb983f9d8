import ConsoleLink.Proofs.Machine.Life
import ConsoleLink.Proofs.Remote.Frames

/-! # Frame numbers

A machine counts its frames from zero when it is switched on or boots an image, and from any number
that a save state says when it loads one. Every frame adds one, so the numbers since then follow one
another. There is no frame after the largest number: a machine that has come so far, be it by
loading a save state that says so, panics over its next frame and with it the simulation.
-/

namespace ConsoleLink

/-- An order that sets the frame number if it succeeds. -/
def Order.renumbers : Order → Bool
  | .boot _ | .load _ => true
  | _ => false

namespace Headless

/-- What a machine may come to that is switched on. It has counted from `origin` since it was
switched on, booted or loaded last; `later` are its numbers after the frames since, the last one
first. -/
inductive Numbered (directory : String) (size : Nat) : UInt64 → List UInt64 → Headless → Prop where
  | made : Numbered directory size 0 [] (make directory size)
  | ran {origin : UInt64} {later : List UInt64} {s s' : Headless} {pads : Pads}
      (h : Numbered directory size origin later s) (hrun : s.runFrame pads = some s') :
      Numbered directory size origin (s'.frame :: later) s'
  | poked {origin : UInt64} {later : List UInt64} {s : Headless} (address : UInt32)
      (bytes : List UInt8) (h : Numbered directory size origin later s) :
      Numbered directory size origin later (s.poke address bytes)
  | plugged {origin : UInt64} {later : List UInt64} {s : Headless} (port : Port) (pad : Pad)
      (h : Numbered directory size origin later s) :
      Numbered directory size origin later (s.setLive port pad)
  | booted {origin : UInt64} {later : List UInt64} {s s' : Headless} {path : String}
      {r : Except FileError ByteArray} (h : Numbered directory size origin later s)
      (hboot : s.bootedFrom path r = .ok s') : Numbered directory size 0 [] s'
  | loaded {origin : UInt64} {later : List UInt64} {s s' : Headless} {target : StateTarget}
      {bytes : ByteArray} {saved : Snapshot} (h : Numbered directory size origin later s)
      (hsaved : Snapshot.decode? bytes = some saved)
      (hload : s.loadedFrom target (.ok bytes) = .ok s') :
      Numbered directory size saved.frame [] s'
  | obeyed {origin : UInt64} {later : List UInt64} {s s' : Headless} {order : Order}
      {answer : Except JobError Reply} (h : Numbered directory size origin later s)
      (hobey : (obey order s).Yields (answer, s'))
      (hkept : order.renumbers = true → ∃ e, answer = .error e) :
      Numbered directory size origin later s'

variable {directory : String} {size : Nat} {origin : UInt64} {later : List UInt64}
  {s s' : Headless}

/-! ## Whatever is done -/

theorem Numbered.boot {path : String} {answer : Except JobError Reply}
    (h : Numbered directory size origin later s)
    (hobey : (obey (.boot path) s).Yields (answer, s')) :
    ∃ origin later, Numbered directory size origin later s' := by
  obtain ⟨r, hboot, hanswer⟩ := Access.yields_bind_iff.mp hobey
  rw [boot_eq, Access.yields_map_read_iff] at hboot
  obtain ⟨found, rfl⟩ := hboot
  replace hanswer := Access.yields_pure_iff.mp hanswer
  cases hbooted : s.bootedFrom path found with
  | error e =>
    rw [hbooted] at hanswer
    cases hanswer
    exact ⟨_, _, h⟩
  | ok booted =>
    rw [hbooted] at hanswer
    cases hanswer
    exact ⟨_, _, h.booted hbooted⟩

theorem Numbered.load {target : StateTarget} {answer : Except JobError Reply}
    (h : Numbered directory size origin later s)
    (hobey : (obey (.load target) s).Yields (answer, s')) :
    ∃ origin later, Numbered directory size origin later s' := by
  obtain ⟨r, hload, hanswer⟩ := Access.yields_bind_iff.mp hobey
  rw [load_eq, Access.yields_map_read_iff] at hload
  obtain ⟨found, rfl⟩ := hload
  replace hanswer := Access.yields_pure_iff.mp hanswer
  cases hloaded : s.loadedFrom target found with
  | error e =>
    rw [hloaded] at hanswer
    cases hanswer
    exact ⟨_, _, h⟩
  | ok loaded =>
    rw [hloaded] at hanswer
    cases hanswer
    obtain ⟨bytes, saved, rfl, hsaved, -⟩ := loadedFrom_eq_ok_iff.mp hloaded
    exact ⟨_, _, h.loaded hsaved hloaded⟩

/-- Every operation goes on counting, or it starts the count again. -/
theorem Numbered.acts {op : HeadlessOp} (h : Numbered directory size origin later s)
    (hacts : Acts s op s') : ∃ origin later, Numbered directory size origin later s' := by
  cases hacts with
  | ran hrun => exact ⟨_, _, h.ran hrun⟩
  | panicked => exact ⟨_, _, h⟩
  | poked address bytes => exact ⟨_, _, h.poked address bytes⟩
  | plugged port pad => exact ⟨_, _, h.plugged port pad⟩
  | @obeyed order answer _ hobey =>
    cases order with
    | boot path => exact h.boot hobey
    | load target => exact h.load hobey
    | save | describe | setRunState | reportRunState | grabFrame =>
      exact ⟨_, _, h.obeyed hobey nofun⟩

theorem Numbered.exists_trace (h : Numbered directory size origin later s) :
    ∃ ops, Trace Acts (make directory size) ops s := by
  have hnext : ∀ {ops op s s'}, Trace Acts (make directory size) ops s → Acts s op s' →
      ∃ ops, Trace Acts (make directory size) ops s' :=
    fun hops hacts => ⟨_, hops.append (.one hacts)⟩
  induction h with
  | made => exact ⟨[], .stop _⟩
  | ran _ hrun ih => exact ih.elim fun _ hops => hnext hops (.ran hrun)
  | poked address bytes _ ih => exact ih.elim fun _ hops => hnext hops (.poked address bytes)
  | plugged port pad _ ih => exact ih.elim fun _ hops => hnext hops (.plugged port pad)
  | booted _ hboot ih => exact ih.elim fun _ hops => hnext hops (.booted hboot)
  | loaded _ _ hload ih => exact ih.elim fun _ hops => hnext hops (.loaded hload)
  | obeyed _ hobey _ ih => exact ih.elim fun _ hops => hnext hops (.obeyed hobey)

/-- Whatever is done to a machine that was switched on, it counts. -/
theorem exists_trace_iff_exists_numbered :
    (∃ ops, Trace Acts (make directory size) ops s) ↔
      ∃ origin later, Numbered directory size origin later s := by
  constructor
  · rintro ⟨ops, h⟩
    exact h.keeps (fun s => ∃ origin later, Numbered directory size origin later s)
      (fun ⟨_, _, hs⟩ hacts => hs.acts hacts) ⟨0, [], .made⟩
  · rintro ⟨origin, later, h⟩
    exact h.exists_trace

/-- A save state can set any number. -/
theorem exists_numbered_from (directory : String) (hsize : size < UInt32.size) (n : UInt64) :
    ∃ s, Numbered directory size n [] s := by
  let s := make directory size
  let saved : Snapshot := ⟨n, none, s.ram⟩
  have hfits : saved.Fits := ⟨nofun, (size_ram_make directory size).trans_lt hsize⟩
  have hsaved := Snapshot.decode?_encode hfits
  have hload : s.loadedFrom (.file "state") (.ok saved.encode) = .ok _ :=
    loadedFrom_eq_ok_iff.mpr ⟨_, saved, rfl, hsaved, rfl, rfl⟩
  exact ⟨_, .loaded .made hsaved hload⟩

/-! ## The numbers -/

/-- Nothing but a frame, a boot and a load changes the frame number. -/
theorem Obeyed.frame_eq {order : Order} {answer : Except JobError Reply}
    (h : Obeyed s order answer s') (hkept : order.renumbers = true → ∃ e, answer = .error e) :
    s'.frame = s.frame := by
  cases h with
  | refused | answered | set => rfl
  | booted | loaded =>
    obtain ⟨e, he⟩ := hkept rfl
    cases he

/-- The numbers since the last start count up from its number. -/
theorem Numbered.numbers_eq (h : Numbered directory size origin later s) :
    s.frame.toNat = origin.toNat + later.length ∧
      (origin :: later.reverse).map UInt64.toNat =
        List.range' origin.toNat (later.length + 1) := by
  induction h with
  | made => exact ⟨rfl, rfl⟩
  | @ran origin later s s' pads _ hrun ih =>
    have hframe : s'.frame.toNat = origin.toNat + (later.length + 1) := by
      rw [toNat_frame_of_runFrame hrun, ih.1, Nat.add_assoc]
    refine ⟨hframe, ?_⟩
    rw [List.reverse_cons, ← List.cons_append, List.map_append, ih.2, List.map_singleton, hframe,
      List.length_cons, List.range'_concat (n := later.length + 1), Nat.one_mul]
  | poked _ _ _ ih => exact ih
  | plugged _ _ _ ih => exact ih
  | @booted _ _ s s' path r _ hboot =>
    refine ⟨?_, rfl⟩
    cases r with
    | error e => cases hboot
    | ok image =>
      rw [bootedFrom] at hboot
      split_ifs at hboot
      cases hboot
      rfl
  | loaded _ hsaved hload =>
    obtain ⟨_, found, hbytes, hfound, -, rfl⟩ := loadedFrom_eq_ok_iff.mp hload
    cases hbytes
    cases hsaved.symm.trans hfound
    exact ⟨rfl, rfl⟩
  | obeyed _ hobey hkept ih => rwa [(obey_yields hobey).frame_eq hkept]

theorem Numbered.ascending (h : Numbered directory size origin later s) :
    (origin :: later.reverse).Pairwise (· < ·) := by
  have hnumbers : ((origin :: later.reverse).map UInt64.toNat).Pairwise (· < ·) := by
    rw [h.numbers_eq.2]
    exact List.pairwise_lt_range'
  exact (List.pairwise_map.mp hnumbers).imp UInt64.lt_iff_toNat_lt.mpr

/-- A machine panics over its next frame if it has come to the largest number. -/
theorem Numbered.runFrame_eq_none_iff (h : Numbered directory size origin later s) (pads : Pads) :
    s.runFrame pads = none ↔ origin.toNat + later.length + 1 = UInt64.size := by
  rw [Headless.runFrame_eq_none_iff, h.numbers_eq.1]

/-- A frame raises a number by one as long as there is a number left. -/
theorem Numbered.raised_iff (h : Numbered directory size origin later s) (pads : Pads) :
    (∃ s', s.runFrame pads = some s' ∧ s'.frame.toNat = s.frame.toNat + 1) ↔
      origin.toNat + later.length + 1 < UInt64.size := by
  have hlimit : s.frame.toNat < UInt64.size := s.frame.toNat_lt
  have hnone := h.runFrame_eq_none_iff pads
  rw [h.numbers_eq.1] at hlimit
  cases hrun : s.runFrame pads with
  | none =>
    have hlast := hnone.mp hrun
    exact iff_of_false (fun ⟨_, hsome, _⟩ => nomatch hsome) (by omega)
  | some s' =>
    have hleft : origin.toNat + later.length + 1 ≠ UInt64.size := fun hlast =>
      nomatch hrun.symm.trans (hnone.mpr hlast)
    exact iff_of_true ⟨s', rfl, toNat_frame_of_runFrame hrun⟩ (by omega)

/-- A machine that runs and panics over its frame takes the step of the simulation with it. -/
theorem step_eq_none_iff {p : ControlPlane Headless} (hjobs : p.jobs.pending = [])
    (hrunning : p.machine.runState = .running) :
    (∃ q, p.step = pure (none, q)) ↔ p.machine.frame.toNat + 1 = UInt64.size := by
  rw [← ControlPlane.runFrame_eq_none_iff_lastNumber, ControlPlane.step_of_no_jobs hjobs hrunning]
  cases p.runFrame with
  | some q => exact iff_of_false (fun ⟨_, h⟩ => nomatch Access.done.inj h) nofun
  | none => exact iff_of_true ⟨_, rfl⟩ rfl

/-- Whatever is done to a machine that was switched on, and whatever the files say that it reads,
its numbers since it was switched on, booted or loaded last follow one another from the number that
it had then, which a save state can make any; they are the numbers that its save states are
described by. The next frame raises the number by exactly one if and only if there is a number left.
If not, it panics, whatever the pads are, and so does a step of the simulation, which catches
nothing. -/
theorem frame_raised_iff (directory : String) (size : Nat) :
    (∀ s, (∃ ops, Trace Acts (make directory size) ops s) ↔
      ∃ origin later, Numbered directory size origin later s) ∧
    (size < UInt32.size → ∀ n, ∃ s, Numbered directory size n [] s) ∧
    ∀ origin later s, Numbered directory size origin later s →
      s.frame.toNat = origin.toNat + later.length ∧
      (origin :: later.reverse).map UInt64.toNat =
        List.range' origin.toNat (later.length + 1) ∧
      (origin :: later.reverse).Pairwise (· < ·) ∧
      (s.snapshot.Fits → describedFrom (.ok s.snapshot.encode) = .ok (some ⟨s.frame, s.game⟩)) ∧
      (∀ pads,
        ((∃ s', s.runFrame pads = some s' ∧ s'.frame.toNat = s.frame.toNat + 1) ↔
          origin.toNat + later.length + 1 < UInt64.size) ∧
        (s.runFrame pads = none ↔ origin.toNat + later.length + 1 = UInt64.size)) ∧
      ∀ p : ControlPlane Headless, p.machine = s → p.jobs.pending = [] → s.runState = .running →
        ((∃ q, p.step = pure (none, q)) ↔ origin.toNat + later.length + 1 = UInt64.size) := by
  refine ⟨fun s => exists_trace_iff_exists_numbered, exists_numbered_from directory,
    fun origin later s h => ⟨h.numbers_eq.1, h.numbers_eq.2, h.ascending, fun hfits => ?_,
      fun pads => ⟨h.raised_iff pads, h.runFrame_eq_none_iff pads⟩, ?_⟩⟩
  · have hdecode := Snapshot.decode?_encode hfits
    exact describedFrom_eq_some_iff.mpr ⟨_, s.snapshot, rfl, hdecode, rfl⟩
  · rintro p rfl hjobs hrunning
    rw [step_eq_none_iff hjobs hrunning, h.numbers_eq.1]

/-- The file of a save state with four bytes of RAM and the given last byte of the frame number; the
seven bytes before it are the largest. -/
def wornFile (last : UInt8) : ByteArray :=
  ⟨#[0x93, 0xCF, 0xFF, 0xFF, 0xFF, 0xFF, 0xFF, 0xFF, 0xFF, last, 0xC0, 0x94, 1, 2, 3, 4]⟩

/-- A machine with that save state. -/
def worn (frame : UInt64) : Headless :=
  { make "states" 4 with ram := ⟨#[1, 2, 3, 4]⟩, frame := frame, game := none }

/-- From the last number but one, a frame leads to the last number, and there is none after it. -/
theorem frame_raised_iff_lastNumber :
    let s := (worn 0xFFFFFFFFFFFFFFFE).atFrame 0xFFFFFFFFFFFFFFFF (.replicate portCount .neutral)
    Numbered "states" 4 0xFFFFFFFFFFFFFFFE [0xFFFFFFFFFFFFFFFF] s ∧
    s.frame.toNat = UInt64.size - 1 ∧
    [0xFFFFFFFFFFFFFFFE, 0xFFFFFFFFFFFFFFFF].Pairwise (fun m n : UInt64 => m < n) ∧
    (∀ pads, s.runFrame pads = none) ∧
    ∃ q, ControlPlane.step ({ machine := s } : ControlPlane Headless) = pure (none, q) := by
  intro s
  have hload : (make "states" 4).loadedFrom (.file "worn") (.ok (wornFile 0xFE)) =
      .ok (worn 0xFFFFFFFFFFFFFFFE) := rfl
  have hsaved : Snapshot.decode? (wornFile 0xFE) =
      some ⟨0xFFFFFFFFFFFFFFFE, none, ⟨#[1, 2, 3, 4]⟩⟩ := rfl
  have hran : (worn 0xFFFFFFFFFFFFFFFE).runFrame (.replicate portCount .neutral) = some s :=
    runFrame_eq_some_iff.mpr ⟨_, rfl, rfl⟩
  have hs : Numbered "states" 4 0xFFFFFFFFFFFFFFFE [0xFFFFFFFFFFFFFFFF] s :=
    .ran (.loaded .made hsaved hload) hran
  obtain ⟨hframe, -, hascending, -, hpads, hstep⟩ :=
    (frame_raised_iff "states" 4).2.2 _ _ s hs
  exact ⟨hs, hframe, hascending, fun pads => (hpads pads).2.mpr rfl,
    (hstep { machine := s } rfl rfl rfl).mpr rfl⟩

/-- A machine that has loaded a save state with the last number has no next frame. -/
theorem not_forall_frame_raised :
    ¬∀ ops s, Trace Acts (make "states" 4) ops s →
      ∀ pads, ∃ s', s.runFrame pads = some s' ∧ s'.frame.toNat = s.frame.toNat + 1 := by
  intro h
  have hload : (make "states" 4).loadedFrom (.file "worn") (.ok (wornFile 0xFF)) =
      .ok (worn 0xFFFFFFFFFFFFFFFF) := rfl
  have htrace : Trace Acts (make "states" 4) [.obey (.load (.file "worn"))]
      (worn 0xFFFFFFFFFFFFFFFF) := .one (.loaded hload)
  obtain ⟨s', hsome, -⟩ := h _ _ htrace (.replicate portCount .neutral)
  exact nomatch hsome.symm.trans (Headless.runFrame_eq_none_iff.mpr rfl)

end Headless

end ConsoleLink
