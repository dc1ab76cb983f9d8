import ConsoleLink.Remote.ControlPlane
import ConsoleLink.Proofs.Disk.Outcomes
import ConsoleLink.Proofs.Machine.Frames
import ConsoleLink.Proofs.Pad.Overlays

/-! # What a step does

The jobs of a step change the watches and the machine and nothing else. A frame counts down and
samples every port once, hands the machine the pads, and is counted on the barrier, unless the
machine panics.
-/

namespace ConsoleLink

/-- A frame as the machine gets it: the pads plugged in, the input as it was sampled, and the pads
that both come to. -/
structure Frame where
  live : Port → Pad
  input : Input
  pads : Pads
  sampled : ∀ port : Port, pads.get port = (input.get port).status (live port)

namespace ControlPlane

variable {σ : Type} [Machine σ] {p q : ControlPlane σ}

/-! ## Sampling -/

theorem samplePort_fst (p : ControlPlane σ) (port : Port) :
    (p.samplePort port).1 =
      (p.input.get port).advance.status (Machine.livePad p.machine port) := by
  simp [samplePort, Input.nextFrame, Input.status_eq, Input.advance]

theorem samplePort_snd (p : ControlPlane σ) (port : Port) :
    (p.samplePort port).2 = { p with input := p.input.advance port } := rfl

theorem samplePorts_cons (p : ControlPlane σ) (pads : Pads) (port : Port) (ports : List Port) :
    p.samplePorts pads (port :: ports) =
      (p.samplePort port).2.samplePorts (pads.set port (p.samplePort port).1 port.isLt) ports :=
  rfl

/-- Sampling changes the input only. -/
theorem samplePorts_snd (p : ControlPlane σ) (pads : Pads) (ports : List Port) :
    (p.samplePorts pads ports).2 =
      { p with input := (p.samplePorts pads ports).2.input } := by
  induction ports generalizing p pads with
  | nil => rfl
  | cons port ports ih => rw [samplePorts_cons, ih, samplePort_snd]

theorem samplePorts_of_not_mem {port : Port} {ports : List Port} (pads : Pads)
    (h : port ∉ ports) :
    (p.samplePorts pads ports).2.input.get port = p.input.get port ∧
      (p.samplePorts pads ports).1.get port = pads.get port := by
  induction ports generalizing p pads with
  | nil => exact ⟨rfl, rfl⟩
  | cons other ports ih =>
    rw [List.mem_cons, not_or] at h
    have hne : other.val ≠ port.val := fun he => h.1 (Fin.ext he).symm
    obtain ⟨hinput, hpad⟩ := ih (p := (p.samplePort other).2)
      (pads.set other (p.samplePort other).1) h.2
    rw [samplePorts_cons]
    refine ⟨hinput.trans ?_, hpad.trans ?_⟩
    · simp [samplePort_snd, Input.advance, hne]
    · exact Vector.getElem_set_ne _ _ hne

/-- Each port is counted down and sampled once, whatever the ports before and after it. -/
theorem samplePorts_of_mem {port : Port} {ports : List Port} (pads : Pads)
    (hports : ports.Nodup) (h : port ∈ ports) :
    (p.samplePorts pads ports).2.input.get port = (p.input.get port).advance ∧
      (p.samplePorts pads ports).1.get port =
        (p.input.get port).advance.status (Machine.livePad p.machine port) := by
  induction ports generalizing p pads with
  | nil => cases h
  | cons other ports ih =>
    obtain ⟨hother, hports⟩ := List.nodup_cons.mp hports
    rw [samplePorts_cons]
    by_cases he : port = other
    · subst he
      obtain ⟨hinput, hpad⟩ := samplePorts_of_not_mem (p := (p.samplePort port).2)
        (pads.set port (p.samplePort port).1) hother
      refine ⟨hinput.trans ?_, hpad.trans ?_⟩
      · simp [samplePort_snd, Input.advance]
      · rw [← samplePort_fst]
        exact Vector.getElem_set_self _
    · have hne : other.val ≠ port.val := fun hval => he (Fin.ext hval).symm
      have hrest := ih (p := (p.samplePort other).2) (pads.set other (p.samplePort other).1)
        hports ((List.mem_cons.mp h).resolve_left he)
      have hkeep : (p.samplePort other).2.input.get port = p.input.get port := by
        simp [samplePort_snd, Input.advance, hne]
      rw [hkeep] at hrest
      exact hrest

theorem samplePads_snd (p : ControlPlane σ) :
    p.samplePads.2 = { p with input := p.samplePads.2.input } :=
  p.samplePorts_snd _ _

theorem samplePads_get (p : ControlPlane σ) (port : Port) :
    p.samplePads.2.input.get port = (p.input.get port).advance ∧
      p.samplePads.1.get port =
        (p.input.get port).advance.status (Machine.livePad p.machine port) :=
  samplePorts_of_mem _ (List.nodup_finRange _) (List.mem_finRange port)

/-! ## Frames -/

/-- The frame that the machine would be handed now. -/
def frame (p : ControlPlane σ) : Frame where
  live := Machine.livePad p.machine
  input := p.samplePads.2.input
  pads := p.samplePads.1
  sampled port := by rw [(p.samplePads_get port).1, (p.samplePads_get port).2]

theorem emulate_of_runFrame {pads : Pads} {s : σ} (h : Machine.runFrame pads p.machine = some s) :
    p.emulate pads = some { p with machine := s } := by
  rw [emulate, h]
  rfl

/-- The emulation of a frame is the machine's, and changes nothing else. -/
theorem emulate_eq_some {pads : Pads} (h : p.emulate pads = some q) :
    Machine.runFrame pads p.machine = some q.machine ∧ q = { p with machine := q.machine } := by
  obtain ⟨s, hs, rfl⟩ := Option.map_eq_some_iff.mp h
  exact ⟨hs, rfl⟩

/-- What the frame makes of the control plane if the machine comes to `s` in it. -/
def ranFrame (p : ControlPlane σ) (s : σ) : ControlPlane σ :=
  { p with
    input := p.frame.input
    machine := s
    watches := p.watches.resolveAll (Machine.memory s)
    barrier := p.barrier.advance }

theorem runFrame_eq (p : ControlPlane σ) :
    p.runFrame = (Machine.runFrame p.frame.pads p.machine).map p.ranFrame := by
  change (p.samplePads.2.emulate p.samplePads.1).map _ = _
  rw [emulate, samplePads_snd, Option.map_map]
  rfl

theorem runFrame_eq_some_iff :
    p.runFrame = some q ↔
      ∃ s, Machine.runFrame p.frame.pads p.machine = some s ∧ p.ranFrame s = q := by
  rw [runFrame_eq, Option.map_eq_some_iff]

theorem runFrame_eq_none_iff :
    p.runFrame = none ↔ Machine.runFrame p.frame.pads p.machine = none := by
  rw [runFrame_eq, Option.map_eq_none_iff]

/-- There is no next frame for a machine that has counted as far as it can. -/
theorem runFrame_eq_none_iff_lastNumber {p : ControlPlane Headless} :
    p.runFrame = none ↔ p.machine.frame.toNat + 1 = UInt64.size :=
  runFrame_eq_none_iff.trans Headless.runFrame_eq_none_iff

theorem exists_runFrame_iff {p : ControlPlane Headless} :
    (∃ q, p.runFrame = some q) ↔ p.machine.frame.toNat + 1 ≠ UInt64.size := by
  rw [← Option.ne_none_iff_exists', ne_eq, runFrame_eq_none_iff_lastNumber]

theorem runFrame_machine (h : p.runFrame = some q) :
    Machine.runFrame p.frame.pads p.machine = some q.machine := by
  obtain ⟨s, hs, rfl⟩ := runFrame_eq_some_iff.mp h
  exact hs

theorem runFrame_input (h : p.runFrame = some q) : q.input = p.frame.input := by
  obtain ⟨s, -, rfl⟩ := runFrame_eq_some_iff.mp h
  rfl

theorem runFrame_input_get (h : p.runFrame = some q) (port : Port) :
    q.input.get port = (p.input.get port).advance := by
  rw [runFrame_input h]
  exact (p.samplePads_get port).1

theorem runFrame_barrier (h : p.runFrame = some q) : q.barrier = p.barrier.advance := by
  obtain ⟨s, -, rfl⟩ := runFrame_eq_some_iff.mp h
  rfl

theorem runFrame_options (h : p.runFrame = some q) : q.options = p.options := by
  obtain ⟨s, -, rfl⟩ := runFrame_eq_some_iff.mp h
  rfl

theorem runFrame_jobs (h : p.runFrame = some q) : q.jobs = p.jobs := by
  obtain ⟨s, -, rfl⟩ := runFrame_eq_some_iff.mp h
  rfl

/-! ## Steps -/

/-- Jobs change the job queue, the watches and the machine only. -/
theorem runJobs_yields (h : p.runJobs.Yields q) :
    q = { p with jobs := q.jobs, watches := q.watches, machine := q.machine } := by
  obtain ⟨⟨jobs, watches, machine⟩, -, hq⟩ := Access.yields_bind_iff.mp h
  rw [Access.yields_pure_iff.mp hq]

theorem runJobs_input (h : p.runJobs.Yields q) : q.input = p.input := by rw [runJobs_yields h]

theorem runJobs_barrier (h : p.runJobs.Yields q) : q.barrier = p.barrier := by
  rw [runJobs_yields h]

/-- A step that emulates a frame: the machine runs once the jobs are done. -/
def Emulates (p : ControlPlane σ) (f : Frame) (q : ControlPlane σ) : Prop :=
  ∃ r : ControlPlane σ, p.runJobs.Yields r ∧ Machine.runState r.machine = .running ∧
    f = r.frame ∧ r.runFrame = some q

/-- A step without a frame: the machine is paused once the jobs are done. -/
def Idles (p q : ControlPlane σ) : Prop :=
  p.runJobs.Yields q ∧ Machine.runState q.machine = .paused

/-- A step whose machine panics: it runs once the jobs are done, and the pads have been sampled. -/
def Panics (p q : ControlPlane σ) : Prop :=
  ∃ r : ControlPlane σ, p.runJobs.Yields r ∧ Machine.runState r.machine = .running ∧
    r.runFrame = none ∧ q = r.samplePads.2

/-- A step emulates one frame, idles or panics. -/
theorem step_yields_iff (outcome : Option Bool) :
    p.step.Yields (outcome, q) ↔
      outcome = some true ∧ (∃ f, p.Emulates f q) ∨ outcome = some false ∧ p.Idles q ∨
        outcome = none ∧ p.Panics q := by
  unfold step
  rw [Access.yields_bind_iff]
  constructor
  · rintro ⟨r, hjobs, hr⟩
    cases hstate : Machine.runState r.machine with
    | running =>
      rw [hstate] at hr
      cases hframe : r.runFrame with
      | some ran =>
        rw [hframe] at hr
        obtain ⟨rfl, rfl⟩ := Prod.mk.inj (Access.yields_pure_iff.mp hr)
        exact .inl ⟨rfl, _, r, hjobs, hstate, rfl, hframe⟩
      | none =>
        rw [hframe] at hr
        obtain ⟨rfl, rfl⟩ := Prod.mk.inj (Access.yields_pure_iff.mp hr)
        exact .inr (.inr ⟨rfl, r, hjobs, hstate, hframe, rfl⟩)
    | paused =>
      rw [hstate] at hr
      obtain ⟨rfl, rfl⟩ := Prod.mk.inj (Access.yields_pure_iff.mp hr)
      exact .inr (.inl ⟨rfl, hjobs, hstate⟩)
  · rintro (⟨rfl, f, r, hjobs, hstate, -, hframe⟩ | ⟨rfl, hjobs, hstate⟩ |
      ⟨rfl, r, hjobs, hstate, hframe, rfl⟩)
    · refine ⟨r, hjobs, ?_⟩
      rw [hstate, hframe]
      exact .done _
    · refine ⟨q, hjobs, ?_⟩
      rw [hstate]
      exact .done _
    · refine ⟨r, hjobs, ?_⟩
      rw [hstate, hframe]
      exact .done _

theorem runJobs_of_no_jobs (hjobs : p.jobs.pending = []) : p.runJobs = pure p := by
  have hnone : p.jobs.runPending perform (p.watches, p.machine) =
      pure (p.jobs, p.watches, p.machine) := by
    rw [JobQueue.runPending, JobQueue.size, hjobs]
    rfl
  rw [runJobs, hnone]
  rfl

/-- A step with no jobs to do, on a machine that runs. -/
theorem step_of_no_jobs (hjobs : p.jobs.pending = [])
    (hstate : Machine.runState p.machine = .running) :
    p.step = pure (match p.runFrame with
      | some q => (some true, q)
      | none => (none, p.samplePads.2)) := by
  rw [step, runJobs_of_no_jobs hjobs, Access.pure_bind, hstate]
  cases p.runFrame <;> rfl

/-- Such a step emulates the frame that the machine would be handed before it. -/
theorem emulates_frame (hjobs : p.jobs.pending = [])
    (hstate : Machine.runState p.machine = .running) (h : p.runFrame = some q) :
    p.Emulates p.frame q := by
  refine ⟨p, ?_, hstate, rfl, h⟩
  rw [runJobs_of_no_jobs hjobs]
  exact .done p

/-- The machine runs the frame that a step emulates, with the pads that are sampled once the jobs
are done. -/
theorem Emulates.machine {f : Frame} (h : p.Emulates f q) :
    ∃ r : ControlPlane σ, p.runJobs.Yields r ∧
      (∀ port : Port, f.pads.get port =
        (p.input.get port).advance.status (Machine.livePad r.machine port)) ∧
      Machine.runFrame f.pads r.machine = some q.machine := by
  obtain ⟨r, hjobs, -, rfl, hframe⟩ := h
  refine ⟨r, hjobs, fun port => ?_, runFrame_machine hframe⟩
  rw [← runJobs_input hjobs]
  exact (r.samplePads_get port).2

theorem Emulates.input {f : Frame} (h : p.Emulates f q) : f.input = q.input := by
  obtain ⟨r, -, -, rfl, hframe⟩ := h
  exact (runFrame_input hframe).symm

theorem Emulates.input_get {f : Frame} (h : p.Emulates f q) (port : Port) :
    q.input.get port = (p.input.get port).advance := by
  obtain ⟨r, hjobs, -, -, hframe⟩ := h
  rw [runFrame_input_get hframe, runJobs_input hjobs]

theorem Emulates.barrier {f : Frame} (h : p.Emulates f q) : q.barrier = p.barrier.advance := by
  obtain ⟨r, hjobs, -, -, hframe⟩ := h
  rw [runFrame_barrier hframe, runJobs_barrier hjobs]

theorem Emulates.options {f : Frame} (h : p.Emulates f q) : q.options = p.options := by
  obtain ⟨r, hjobs, -, -, hframe⟩ := h
  rw [runFrame_options hframe, runJobs_yields hjobs]

theorem Idles.options (h : p.Idles q) : q.options = p.options := by rw [runJobs_yields h.1]

theorem Idles.input (h : p.Idles q) : q.input = p.input := runJobs_input h.1

theorem Idles.barrier (h : p.Idles q) : q.barrier = p.barrier := runJobs_barrier h.1

end ControlPlane

end ConsoleLink
