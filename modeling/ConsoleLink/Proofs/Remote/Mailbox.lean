import ConsoleLink.Proofs.Machine.Publishing
import ConsoleLink.Proofs.Pad.History
import ConsoleLink.Proofs.Remote.Frames

/-! # What the guest gets to see of the pads

Between the steps of a host the input of its ports is operated on. Every step emulates a frame, and
in guest memory that frame leaves its number and, for each port, the pad that was sampled on that
port in the same step, and changes nothing else.
-/

namespace ConsoleLink

/-- What is done with a host: an operation on the input of a port, or a step. -/
inductive HostOp where
  | input (op : InputOp)
  | step

/-- What an operation makes of a host. A step that panics is the end of the host. -/
inductive HostOp.Does (p : ControlPlane Headless) : HostOp → ControlPlane Headless → Prop where
  | input (op : InputOp) : Does p (.input op) { p with input := p.input.apply op }
  | step {emulated : Bool} {q : ControlPlane Headless} (h : p.step.Yields (some emulated, q)) :
      Does p .step q

/-- A host whose machine runs and has no jobs to do. -/
structure ControlPlane.Unburdened (p : ControlPlane Headless) : Prop where
  jobs : p.jobs.pending = []
  running : p.machine.runState = .running

namespace ControlPlane

variable {p q r : ControlPlane Headless} {op : HostOp} {ops before after : List HostOp}

/-- Such a host emulates the frame that its machine runs. -/
theorem Unburdened.step_of_runFrame (h : p.Unburdened) (hframe : p.runFrame = some q) :
    p.step = pure (some true, q) := by
  rw [step_of_no_jobs h.jobs h.running, hframe]

theorem Unburdened.does_step (h : p.Unburdened) (hframe : p.runFrame = some q) :
    HostOp.Does p .step q := by
  have hstep : p.step.Yields (some true, q) := by
    rw [h.step_of_runFrame hframe]
    exact .done _
  exact .step hstep

theorem Unburdened.runFrame_of_step {emulated : Bool} (h : p.Unburdened)
    (hstep : p.step.Yields (some emulated, q)) : p.runFrame = some q := by
  rw [step_of_no_jobs h.jobs h.running] at hstep
  have hresult := Access.yields_pure_iff.mp hstep
  cases hframe : p.runFrame with
  | some ran =>
    rw [hframe] at hresult
    rw [(Prod.mk.inj hresult).2]
  | none =>
    rw [hframe] at hresult
    cases hresult

theorem Unburdened.runFrame (h : p.Unburdened) (hframe : p.runFrame = some q) : q.Unburdened where
  jobs := (congrArg JobQueue.pending (runFrame_jobs hframe)).trans h.jobs
  running := (Headless.runState_of_runFrame (runFrame_machine hframe)).trans h.running

theorem Unburdened.does (h : p.Unburdened) (hdoes : op.Does p q) : q.Unburdened := by
  cases hdoes with
  | input op => exact ⟨h.jobs, h.running⟩
  | step hstep => exact h.runFrame (h.runFrame_of_step hstep)

theorem Unburdened.trace (h : p.Unburdened) (htrace : Trace HostOp.Does p ops q) : q.Unburdened :=
  htrace.keeps Unburdened (fun hp hdoes => hp.does hdoes) h

/-- What a step samples on a port does not depend on the ports that it samples before. -/
theorem frame_pads_get (p : ControlPlane Headless) (port : Port) :
    p.frame.pads.get port = (p.input.nextFrame port (p.machine.live.get port)).1 :=
  (p.samplePads_get port).2.trans (p.samplePort_fst port).symm

theorem publishes_runFrame (h : p.runFrame = some q) :
    p.machine.Publishes q.machine.frame.toNat
      (fun port => (p.input.nextFrame port (p.machine.live.get port)).1) q.machine := by
  have hpublishes := Headless.publishes_of_runFrame (runFrame_machine h)
  have hpads : p.frame.pads.get = fun port : Port =>
      (p.input.nextFrame port (p.machine.live.get port)).1 := funext p.frame_pads_get
  rwa [hpads] at hpublishes

/-- Whatever is done with a host whose machine runs, an operation on its input leaves the machine as
it is, and each of its steps emulates a frame: the frame number goes up by one, and guest memory
then has the bytes of this number and of the pads that the ports were sampled with in this step, as
far as there is RAM, and is otherwise what it was before the step. Only a machine that has counted
as far as it can has no such step. -/
theorem publishes_in_every_step (h : p.Unburdened)
    (hrun : Trace HostOp.Does p (before ++ .step :: after) r) :
    (∀ input q, HostOp.Does p (.input input) q → q.machine = p.machine) ∧
    (∃ q q', Trace HostOp.Does p before q ∧ q.step = pure (some true, q') ∧
      Trace HostOp.Does q' after r ∧ q'.machine.frame.toNat = q.machine.frame.toNat + 1 ∧
      q.machine.Publishes q'.machine.frame.toNat
        (fun port => (q.input.nextFrame port (q.machine.live.get port)).1) q'.machine) ∧
    ((∃ q, HostOp.Does r .step q) ↔ r.machine.frame.toNat + 1 ≠ UInt64.size) := by
  have hr := h.trace hrun
  refine ⟨?_, ?_, ?_⟩
  · rintro input q ⟨⟩
    rfl
  · obtain ⟨q, hbefore, hrest⟩ := Trace.append_iff.mp hrun
    have hq := h.trace hbefore
    cases hrest with
    | next hdoes hafter =>
      cases hdoes with
      | step hstep =>
        have hframe := hq.runFrame_of_step hstep
        exact ⟨q, _, hbefore, hq.step_of_runFrame hframe, hafter,
          Headless.toNat_frame_of_runFrame (runFrame_machine hframe), publishes_runFrame hframe⟩
  · rw [← exists_runFrame_iff]
    constructor
    · rintro ⟨q, hdoes⟩
      cases hdoes with
      | step hstep => exact ⟨q, hr.runFrame_of_step hstep⟩
    · rintro ⟨q, hframe⟩
      exact ⟨q, hr.does_step hframe⟩

/-- RAM that ends in the middle of what is published of the first pad. -/
def cutMailbox : ControlPlane Headless where
  machine := .make "states" 0x102

/-- The first button is latched on the first port; the frame after that shows it in what RAM there
is of the pad, beside its own number. -/
theorem publishes_in_every_step_cutMailbox :
    ∃ q q', Trace HostOp.Does cutMailbox [.input (.setLatch 0 { buttons := Button.a.mask })] q ∧
      q.step = pure (some true, q') ∧
      q'.machine.memory.byteAt 0x800000F3 = 1 ∧
      q'.machine.memory.byteAt 0x80000100 = 1 ∧
      q'.machine.memory.isValid 0x80000102 = false := by
  let latched : ControlPlane Headless :=
    { cutMailbox with input := cutMailbox.input.apply (.setLatch 0 { buttons := Button.a.mask }) }
  have h : cutMailbox.Unburdened := ⟨rfl, rfl⟩
  have hlatched : latched.Unburdened := ⟨rfl, rfl⟩
  obtain ⟨ran, hran⟩ := exists_runFrame_iff (p := latched) |>.mpr (by decide)
  have hrun : Trace HostOp.Does cutMailbox
      ([.input (.setLatch 0 { buttons := Button.a.mask })] ++ [.step]) ran :=
    .next (.input _) (.one (hlatched.does_step hran))
  obtain ⟨-, ⟨q, q', hbefore, hq, -, hframe, hpublishes⟩, -⟩ := publishes_in_every_step h hrun
  obtain rfl : q = latched := by
    cases hbefore with
    | next hdoes hrest =>
      cases hdoes
      cases hrest
      rfl
  have hsize : latched.machine.ram.size = 0x102 := Headless.size_ram_make "states" 0x102
  have hvalid : ∀ {address : UInt32} {i : Nat}, address.toNat = Headless.ramBase.toNat + i →
      (latched.machine.memory.isValid address = true ↔ i < 0x102) := fun haddress => by
    rw [Headless.isValid_memory_of_toNat haddress, hsize]
  let port : Port := ⟨0, by decide⟩
  have hlast : latched.machine.memory.isValid (UInt32.ofNat (0x800000F0 + 3)) = true :=
    (hvalid (i := 0xF3) (by decide)).mpr (by decide)
  have hfirst : latched.machine.memory.isValid (UInt32.ofNat (0x80000100 + 4 * port + 0)) = true :=
    (hvalid (i := 0x100) (by decide)).mpr (by decide)
  refine ⟨latched, q', hbefore, hq, ?_, ?_, ?_⟩
  · refine (hpublishes.number 3 (by decide) hlast).trans ?_
    rw [hframe]
    decide
  · exact (hpublishes.mail port 0 (by decide) hfirst).trans (by decide)
  · rw [hpublishes.valid, Bool.eq_false_iff, ne_eq, hvalid (i := 0x102) (by decide)]
    decide

end ControlPlane

end ConsoleLink
