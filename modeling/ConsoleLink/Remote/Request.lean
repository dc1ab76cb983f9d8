import ConsoleLink.Remote.ControlPlane
import ConsoleLink.Remote.Result

/-! # Requests in progress

A request goes through a few actions on the control plane, each of which happens at once; steps of
the simulation and actions of other requests may come between them. `start` is the first action,
`resume` the next one as soon as it can be taken, and `giveUp` ends a wait that has lasted too long.

A command that holds buttons registers its wait before it queues its overlay.
-/

namespace ConsoleLink

/-- What a request has yet to do. -/
inductive Pending where
  /-- Queue an overlay; the wait for its frames is registered. -/
  | queueing (port : Port) (overlay : Overlay) (ticket : Ticket)
  /-- Hand in the job that resolves these watches; they are defined. -/
  | resolving (definitions : List (String × WatchDescriptor))
  /-- Wait for a frame; `port` is that of the overlay that is waited for. -/
  | onFrame (ticket : Ticket) (port : Option Port)
  /-- Wait for the job of a command. -/
  | onJob (command : Command) (id : Nat)

/-- How far a request has got. -/
inductive Progress where
  | answered (result : Except RemoteError Json)
  | waiting (on : Pending)

namespace ControlPlane

variable {σ : Type}

/-- The state of the control plane. -/
def status (p : ControlPlane σ) (state : RunState) : Json := .object
  [Result.frameCount p.barrier.frame,
   ("run_state", state.toJson),
   ("mode", .text p.options.mode.text),
   ("ports", .array ((List.finRange portCount).map (Result.portStatus p.input))),
   ("watches", .array (p.watches.names.map .text))]

/-! ## Actions -/

/-- Hands in the job of a command. -/
def handIn (p : ControlPlane σ) (command : Command) (job : Job σ) : Progress × ControlPlane σ :=
  match p.jobs.submit job true with
  | .ok (id, jobs) => (.waiting (.onJob command id), { p with jobs := jobs })
  | .error e => (.answered (.error (.job e)), p)

/-- Queues an overlay on a port. -/
def queueOverlay (p : ControlPlane σ) (port : Port) (overlay : Overlay) : ControlPlane σ :=
  { p with input := (p.input.queue port overlay).2 }

/-- The wait for some frames, registered now. -/
def register (p : ControlPlane σ) (frames : Nat) :
    Except RemoteError (Ticket × ControlPlane σ) :=
  match p.barrier.register frames with
  | .ok (ticket, barrier) => .ok (ticket, { p with barrier := barrier })
  | .error e => .error (.wait e)

/-- Begins to wait, or answers why it cannot. -/
def waitFor (p : ControlPlane σ) (frames : Nat) (next : Ticket → Pending) :
    Progress × ControlPlane σ :=
  match p.register frames with
  | .ok (ticket, p) => (.waiting (next ticket), p)
  | .error e => (.answered (.error e), p)

/-- The first action of a command. -/
def start (p : ControlPlane σ) (command : Command) : Progress × ControlPlane σ :=
  match command with
  | .latch port pad =>
    (.answered (.ok (Result.ok [Result.port port, ("queued", .bool false)])),
     { p with input := (p.input.setLatch port pad).2 })
  | .hold port overlay =>
    match p.options.mode with
    | .realTime =>
      (.answered (.ok (Result.ok (Result.queued port))), p.queueOverlay port overlay)
    | .turnBased => p.waitFor overlay.frames (.queueing port overlay)
  | .enable port enabled =>
    (.answered (.ok (Result.ok [Result.port port, ("enabled", .bool enabled)])),
     { p with input := (p.input.setEnabled port enabled).2 })
  | .defineWatches definitions =>
    (.waiting (.resolving definitions), p.defineWatches definitions)
  | .readWatches names => (.answered (Result.values p.watches names), p)
  | .waitFrames frames => p.waitFor frames fun ticket => .onFrame ticket none
  | .boot path => p.handIn command (.order (.boot path))
  | .save target => p.handIn command (.order (.save target))
  | .load target => p.handIn command (.order (.load target))
  | .describe target => p.handIn command (.order (.describe target))
  | .setRunState state => p.handIn command (.order (.setRunState state))
  | .screenshot _ => p.handIn command (.order .grabFrame)
  | .status => p.handIn command (.order .reportRunState)

/-- The answer to a command whose job got a reply. A machine without video has no picture, and a
reply of the wrong kind counts as none. -/
def answer (p : ControlPlane σ) : Command → Reply → Access (Except RemoteError Json)
  | .defineWatches definitions, _ => pure (.ok (Result.registered (definitions.map Prod.fst)))
  | .boot path, _ => pure (.ok (Result.ok [("game_path", .text path)]))
  | .save target, _ => pure (.ok (Result.stateAction "save" target []))
  | .load target, _ => pure (.ok (Result.stateAction "load" target []))
  | .describe target, .stateInfo info =>
    pure (.ok (Result.stateAction "info" target (Result.stateInfo info)))
  | .setRunState state, _ => pure (.ok (Result.ok [("state", state.toJson)]))
  | .screenshot _, .frame none => pure (.error (.unavailable "No video output available"))
  | .screenshot none, .frame (some f) => pure (Result.picture f)
  | .screenshot (some path), .frame (some f) => Result.savePicture f path
  | .status, .runState state => pure (.ok (p.status state))
  | _, _ => pure (.error (.job .unavailable))

/-- The answer to a request whose frames have run. -/
def frameAnswer (port : Option Port) (frame : Nat) : Json :=
  match port with
  | some port => Result.ok (Result.queued port ++ [Result.frameCount frame])
  | none => .object [Result.frameCount frame]

/-- The next action of a request; while it has to wait, nothing happens. -/
def resume (p : ControlPlane σ) (pending : Pending) : Access (Progress × ControlPlane σ) :=
  match pending with
  | .queueing port overlay ticket =>
    pure (.waiting (.onFrame ticket (some port)), p.queueOverlay port overlay)
  | .resolving definitions =>
    pure (p.handIn (.defineWatches definitions) (.resolve (definitions.map Prod.fst)))
  | .onFrame ticket port =>
    match p.barrier.collect ticket with
    | (.ok none, barrier) => pure (.waiting pending, { p with barrier := barrier })
    | (.ok (some frame), barrier) =>
      pure (.answered (.ok (frameAnswer port frame)), { p with barrier := barrier })
    | (.error e, barrier) => pure (.answered (.error (.wait e)), { p with barrier := barrier })
  | .onJob command id =>
    match p.jobs.collect id with
    | (none, jobs) => pure (.waiting pending, { p with jobs := jobs })
    | (some (.error e), jobs) => pure (.answered (.error (.job e)), { p with jobs := jobs })
    | (some (.ok reply), jobs) => do
      let p := { p with jobs := jobs }
      return (.answered (← p.answer command reply), p)

/-- The end of a wait that has lasted too long. A job stays in its queue; a reply that is there by
now is left for the next action. -/
def giveUp (p : ControlPlane σ) : Pending → Progress × ControlPlane σ
  | .onFrame ticket port =>
    let (result, barrier) := p.barrier.collectOrTimeout ticket
    (.answered ((result.map (frameAnswer port)).mapError .wait), { p with barrier := barrier })
  | .onJob command id =>
    match p.jobs.collectOrTimeout id with
    | (.ok _, _) => (.waiting (.onJob command id), p)
    | (.error e, jobs) => (.answered (.error (.job e)), { p with jobs := jobs })
  | pending => (.waiting pending, p)

/-- The first action of a call. A call that is malformed is refused and has no effect. -/
def call (p : ControlPlane σ) (method : String) (params : Json) : Progress × ControlPlane σ :=
  match Command.ofCall method params with
  | .ok command => p.start command
  | .error e => (.answered (.error e), p)

/-- Defines watches as they are written and does not resolve them; the names of all of them. If one
is at fault, none is defined. -/
def define (p : ControlPlane σ) (specs : NameMap WatchSpec) :
    Except RemoteError (List String) × ControlPlane σ :=
  match Command.definitions specs with
  | .ok definitions => (.ok (definitions.map Prod.fst), p.defineWatches definitions)
  | .error e => (.error e, p)

/-- Carries a request on for so many actions, before each of which the simulation does its part. -/
def carryOn (simulate : ControlPlane σ → Access (ControlPlane σ)) :
    (actions : Nat) → Progress → ControlPlane σ → Access (Progress × ControlPlane σ)
  | actions + 1, .waiting pending, p => do
    let p ← simulate p
    let (progress, p) ← p.resume pending
    carryOn simulate actions progress p
  | _, progress, p => pure (progress, p)

/-- The most actions after its first that a request takes without waiting for a frame. -/
def actionLimit : Nat := 2

end ControlPlane

end ConsoleLink
