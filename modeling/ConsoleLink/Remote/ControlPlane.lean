import ConsoleLink.Barrier
import ConsoleLink.Jobs
import ConsoleLink.Machine.Basic
import ConsoleLink.Mode
import ConsoleLink.Watch.Registry

/-! # The control plane

A machine together with what requests share with it: the input of its ports, the watches, the frame
barrier and the job queue. Only a step of the simulation touches the machine. A step first runs the
jobs that are queued; then, if the machine is running, it samples the pads, emulates a frame,
refreshes the watches and counts the frame, in this order. A machine that panics over its frame ends
the simulation there.
-/

namespace ConsoleLink

/-- How requests are answered. -/
structure Options where
  mode : Mode := .realTime
  /-- The milliseconds after which a request waits no longer. -/
  waitTimeout : Option Nat := none
  deriving DecidableEq

/-- What a simulation is handed to do. -/
inductive Job (σ : Type) where
  | order (order : Order)
  /-- Resolve the watches of these names in turn. -/
  | resolve (names : List String)
  /-- Anything else that the embedding program does with the machine. -/
  | custom (effect : σ → Except JobError Unit × σ)

/-- A machine and what requests share with it. -/
structure ControlPlane (σ : Type) where
  options : Options := {}
  input : Input := {}
  watches : Registry := {}
  barrier : Barrier := {}
  jobs : JobQueue (Job σ) Reply := {}
  machine : σ

namespace ControlPlane

variable {σ : Type} [Machine σ]

/-! ## Jobs -/

/-- Does a job, given the watches and the machine. -/
def perform (job : Job σ) : Registry × σ → Access (Except JobError Reply × Registry × σ)
  | (watches, s) =>
    match job with
    | .order order => do
      let (answer, s) ← Machine.obey order s
      return (answer, watches, s)
    | .resolve names => pure (.ok .done, watches.resolveNames (Machine.memory s) names, s)
    | .custom effect =>
      let (answer, s) := effect s
      pure (answer.map fun () => .done, watches, s)

/-- Runs the jobs that are queued, without a frame. -/
def runJobs (p : ControlPlane σ) : Access (ControlPlane σ) := do
  let (jobs, watches, machine) ← p.jobs.runPending perform (p.watches, p.machine)
  return { p with jobs := jobs, watches := watches, machine := machine }

/-! ## Frames -/

/-- Counts a frame on a port and samples it. -/
def samplePort (p : ControlPlane σ) (port : Port) : Pad × ControlPlane σ :=
  let (pad, input) := p.input.nextFrame port (Machine.livePad p.machine port)
  (pad, { p with input := input })

/-- Samples some ports in turn, the others keeping the pads they have. -/
def samplePorts (p : ControlPlane σ) (pads : Pads) : List Port → Pads × ControlPlane σ
  | [] => (pads, p)
  | port :: ports =>
    let (pad, p) := p.samplePort port
    p.samplePorts (pads.set port pad) ports

/-- Samples every port. -/
def samplePads (p : ControlPlane σ) : Pads × ControlPlane σ :=
  p.samplePorts (.replicate portCount .neutral) (List.finRange portCount)

/-- Has the machine run a frame, if it does not panic. -/
def emulate (pads : Pads) (p : ControlPlane σ) : Option (ControlPlane σ) :=
  (Machine.runFrame pads p.machine).map fun s => { p with machine := s }

/-- Resolves every watch. -/
def refreshWatches (p : ControlPlane σ) : ControlPlane σ :=
  { p with watches := p.watches.resolveAll (Machine.memory p.machine) }

/-- Counts a frame on the barrier. -/
def countFrame (p : ControlPlane σ) : ControlPlane σ := { p with barrier := p.barrier.advance }

/-- One frame: sample, emulate, refresh, count. -/
def runFrame (p : ControlPlane σ) : Option (ControlPlane σ) :=
  let (pads, p) := p.samplePads
  (p.emulate pads).map fun p => p.refreshWatches.countFrame

/-- A step of the simulation; whether it emulated a frame. `none` if the machine panics, which
nobody catches: the pads have been sampled then, and nothing is refreshed or counted. -/
def step (p : ControlPlane σ) : Access (Option Bool × ControlPlane σ) := do
  let p ← p.runJobs
  match Machine.runState p.machine with
  | .running =>
    match p.runFrame with
    | some p => return (some true, p)
    | none => return (none, p.samplePads.2)
  | .paused => return (some false, p)

/-- Several steps; how many of them emulated a frame, unless one of them panicked, which is the
last. -/
def steps : (n : Nat) → ControlPlane σ → Access (Option Nat × ControlPlane σ)
  | 0, p => pure (some 0, p)
  | n + 1, p => do
    let (outcome, p) ← p.step
    match outcome with
    | none => return (none, p)
    | some emulated =>
      let (count, p) ← steps n p
      return (count.map (· + emulated.toNat), p)

/-- The end of the simulation: the jobs that are queued still run, and nobody is left waiting for a
frame. -/
def finish (p : ControlPlane σ) : Access (ControlPlane σ) := do
  let p ← p.runJobs
  return { p with barrier := p.barrier.close }

/-- The simulation goes away; jobs that are queued or handed in later get no answer. -/
def abandonSimulation (p : ControlPlane σ) : ControlPlane σ := { p with jobs := p.jobs.drop }

/-- Defines watches without resolving them. -/
def defineWatches (p : ControlPlane σ) (definitions : List (String × WatchDescriptor)) :
    ControlPlane σ :=
  { p with watches := p.watches.defineAll definitions }

end ControlPlane

end ConsoleLink
