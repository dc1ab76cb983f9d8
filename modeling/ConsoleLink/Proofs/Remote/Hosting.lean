import ConsoleLink.Proofs.Pad.Comparison
import ConsoleLink.Proofs.Remote.Exchange
import ConsoleLink.Proofs.Trace

/-! # A host and what happens between its steps

A host steps its machine, which may be paused; between the steps requests take their actions, and
whoever shares the control plane uses ports and barrier directly. What an event does to a port
depends on the event alone, and no event but a frame is counted.
-/

namespace ConsoleLink

/-- A step of a host, or something that happens between two of them. -/
inductive HostEvent where
  /-- A step that emulates a frame. -/
  | frame (f : Frame)
  /-- A step that emulates none. -/
  | idle
  /-- The first action of a request. -/
  | call (method : String) (params : Json)
  /-- A later action of a request. -/
  | resume (pending : Pending)
  /-- The end of a wait that has lasted too long. -/
  | giveUp (pending : Pending)
  /-- An operation on the input of a port. -/
  | input (op : InputOp)
  /-- A wait for frames is registered. -/
  | register (frames : Nat)
  | collect (ticket : Ticket)
  | close
  /-- Anything that is done to jobs, watches and the machine. -/
  | elsewhere

/-- What the first action of a command does to the input. -/
def Command.inputOp? (mode : Mode) : Command → Option InputOp
  | .latch port pad => some (.setLatch port pad)
  | .enable port enabled => some (.setEnabled port enabled)
  | .hold port overlay =>
    match mode with
    | .realTime => some (.queue port overlay)
    | .turnBased => none
  | _ => none

namespace HostEvent

/-- What an event between steps does to the input. -/
def inputOp? (mode : Mode) : HostEvent → Option InputOp
  | .call method params =>
    match Command.ofCall method params with
    | .ok command => command.inputOp? mode
    | .error _ => none
  | .resume (.queueing port overlay _) => some (.queue port overlay)
  | .input op => some op
  | _ => none

/-- What an event does to the input, as far as it concerns a port. -/
def inputOps (mode : Mode) (port : Port) : HostEvent → List InputOp
  | .frame _ => [.advance port]
  | e => (e.inputOp? mode).toList

/-- The frame that an event emulates. -/
def frame? : HostEvent → Option Frame
  | .frame f => some f
  | _ => none

/-- The frames of a log. -/
def frames (log : List HostEvent) : List Frame := log.filterMap frame?

/-- What a log does to the input, as far as it concerns a port. -/
def history (mode : Mode) (port : Port) (log : List HostEvent) : List InputOp :=
  log.flatMap (inputOps mode port)

theorem frames_append (log later : List HostEvent) :
    frames (log ++ later) = frames log ++ frames later :=
  List.filterMap_append

theorem frames_cons (e : HostEvent) (log : List HostEvent) :
    frames (e :: log) = frames [e] ++ frames log :=
  frames_append [e] log

theorem frames_singleton_of_none {e : HostEvent} (h : e.frame? = none) : frames [e] = [] := by
  simp [frames, h]

end HostEvent

/-! ## Actions between steps -/

/-- What can happen to a barrier without a frame. -/
inductive Barrier.Moves (b : Barrier) : Barrier → Prop where
  | same : Moves b b
  | registered {t : Ticket} (hid : t.id = b.issued) : Moves b (b.withWaiter t)
  | collected (t : Ticket) : Moves b (b.collect t).2
  | closed : Moves b b.close

namespace Barrier.Moves

variable {b b' : Barrier} {t : Ticket}

theorem frame (h : b.Moves b') : b'.frame = b.frame := by
  cases h with
  | same | registered | closed => rfl
  | collected t => exact b.collect_frame t

theorem fresh (h : b.Moves b') (hb : b.Fresh) : b'.Fresh := by
  cases h with
  | same => exact hb
  | registered hid => exact hb.withWaiter hid
  | collected t => exact hb.collect t
  | closed => exact hb.close

/-- A barrier that is open was open before. -/
theorem wasOpen (h : b.Moves b') (hopen : b'.closed = false) : b.closed = false := by
  cases h with
  | same | registered => exact hopen
  | collected t =>
    rw [b.collect_snd t] at hopen
    exact hopen
  | closed => cases hopen

theorem waits (h : b.Moves b') (ht : b.Waits t) (hopen : b'.closed = false) : b'.Waits t := by
  cases h with
  | same => exact ht
  | registered hid => exact ht.withWaiter hid
  | collected u => exact ht.collect u
  | closed => cases hopen

end Barrier.Moves

variable {σ : Type} {p q r : ControlPlane σ}

/-- An action does to the input what is said, and nothing to the frames counted. -/
structure Acts (p : ControlPlane σ) (op : Option InputOp) (q : ControlPlane σ) : Prop where
  options : q.options = p.options
  input : q.input = op.elim p.input p.input.apply
  barrier : p.barrier.Moves q.barrier

namespace ControlPlane

theorem handIn_acts (p : ControlPlane σ) (command : Command) (job : Job σ) :
    Acts p none (p.handIn command job).2 := by
  unfold handIn
  split <;> exact ⟨rfl, rfl, .same⟩

theorem waitFor_acts (p : ControlPlane σ) (frames : Nat) (next : Ticket → Pending) :
    Acts p none (p.waitFor frames next).2 := by
  unfold waitFor register
  rcases p.barrier.register_cases frames with ⟨e, he⟩ | ⟨hok, -, -⟩
  · rw [he]
    exact ⟨rfl, rfl, .same⟩
  · rw [hok]
    exact ⟨rfl, rfl, .registered rfl⟩

theorem start_acts (p : ControlPlane σ) (command : Command) :
    Acts p (command.inputOp? p.options.mode) (p.start command).2 := by
  cases command with
  | latch | enable | defineWatches | readWatches => exact ⟨rfl, rfl, .same⟩
  | hold port overlay =>
    unfold start Command.inputOp?
    dsimp only
    cases p.options.mode with
    | realTime => exact ⟨rfl, rfl, .same⟩
    | turnBased => exact p.waitFor_acts _ _
  | waitFrames frames => exact p.waitFor_acts _ _
  | boot | save | load | describe | setRunState | screenshot | status => exact p.handIn_acts _ _

theorem call_acts (p : ControlPlane σ) (method : String) (params : Json) :
    Acts p ((HostEvent.call method params).inputOp? p.options.mode) (p.call method params).2 := by
  unfold call HostEvent.inputOp?
  dsimp only
  cases Command.ofCall method params with
  | ok command => exact p.start_acts command
  | error e => exact ⟨rfl, rfl, .same⟩

theorem resume_acts {pending : Pending} {progress : Progress}
    (h : (p.resume pending).Yields (progress, q)) :
    Acts p ((HostEvent.resume pending).inputOp? p.options.mode) q := by
  cases pending with
  | queueing port overlay ticket =>
    cases Access.yields_pure_iff.mp h
    exact ⟨rfl, rfl, .same⟩
  | resolving definitions =>
    have hq := congrArg Prod.snd (Access.yields_pure_iff.mp h)
    dsimp only at hq
    rw [hq]
    exact p.handIn_acts _ _
  | onFrame ticket holder =>
    rw [resume_onFrame] at h
    have hq := congrArg Prod.snd (Access.yields_pure_iff.mp h)
    dsimp only at hq
    rw [hq]
    exact ⟨rfl, rfl, .collected ticket⟩
  | onJob command id =>
    unfold resume at h
    dsimp only at h
    split at h
    · cases Access.yields_pure_iff.mp h
      exact ⟨rfl, rfl, .same⟩
    · cases Access.yields_pure_iff.mp h
      exact ⟨rfl, rfl, .same⟩
    · obtain ⟨result, -, h⟩ := Access.yields_bind_iff.mp h
      cases Access.yields_pure_iff.mp h
      exact ⟨rfl, rfl, .same⟩

theorem giveUp_acts (p : ControlPlane σ) (pending : Pending) :
    Acts p none (p.giveUp pending).2 := by
  cases pending with
  | queueing | resolving => exact ⟨rfl, rfl, .same⟩
  | onFrame ticket holder =>
    rw [giveUp_onFrame]
    exact ⟨rfl, rfl, .collected ticket⟩
  | onJob command id =>
    unfold giveUp
    dsimp only
    split <;> exact ⟨rfl, rfl, .same⟩

end ControlPlane

/-! ## Events -/

variable [Machine σ]

/-- An event takes a control plane to another. -/
inductive Occurs (p : ControlPlane σ) : HostEvent → ControlPlane σ → Prop where
  | frame {f : Frame} {q : ControlPlane σ} (h : p.Emulates f q) : Occurs p (.frame f) q
  | idle {q : ControlPlane σ} (h : p.Idles q) : Occurs p .idle q
  | call {method : String} {params : Json} :
      Occurs p (.call method params) (p.call method params).2
  | resume {pending : Pending} {progress : Progress} {q : ControlPlane σ}
      (h : (p.resume pending).Yields (progress, q)) : Occurs p (.resume pending) q
  | giveUp {pending : Pending} : Occurs p (.giveUp pending) (p.giveUp pending).2
  | input {op : InputOp} (h : ∀ port, op.countsFrame port = false) :
      Occurs p (.input op) { p with input := p.input.apply op }
  | register {frames : Nat} {t : Ticket} {q : ControlPlane σ}
      (h : p.register frames = .ok (t, q)) : Occurs p (.register frames) q
  | collect {ticket : Ticket} :
      Occurs p (.collect ticket) { p with barrier := (p.barrier.collect ticket).2 }
  | close : Occurs p .close { p with barrier := p.barrier.close }
  | elsewhere {q : ControlPlane σ} (hoptions : q.options = p.options) (hinput : q.input = p.input)
      (hbarrier : q.barrier = p.barrier) : Occurs p .elsewhere q

variable {e : HostEvent}

/-- No command counts a frame on a port. -/
theorem Command.inputOp?_countsFrame {mode : Mode} {command : Command} {op : InputOp}
    (h : command.inputOp? mode = some op) (port : Nat) : op.countsFrame port = false := by
  unfold inputOp? at h
  split at h
  · cases h
    rfl
  · cases h
    rfl
  · split at h <;> cases h
    rfl
  · cases h

/-- An event is a frame, or an action between steps, which counts no frame on any port. -/
theorem Occurs.cases (h : Occurs p e q) :
    (∃ f, e = .frame f ∧ p.Emulates f q) ∨
      e.frame? = none ∧ Acts p (e.inputOp? p.options.mode) q ∧
        ∀ op, e.inputOp? p.options.mode = some op → ∀ port, op.countsFrame port = false := by
  cases h with
  | frame h => exact .inl ⟨_, rfl, h⟩
  | idle h =>
    refine .inr ⟨rfl, ⟨h.options, h.input, ?_⟩, nofun⟩
    rw [h.barrier]
    exact .same
  | @call method params =>
    refine .inr ⟨rfl, p.call_acts method params, fun op hop port => ?_⟩
    unfold HostEvent.inputOp? at hop
    dsimp only at hop
    split at hop
    · exact Command.inputOp?_countsFrame hop port
    · cases hop
  | @resume pending progress q h =>
    refine .inr ⟨rfl, ControlPlane.resume_acts h, fun op hop port => ?_⟩
    cases pending with
    | queueing =>
      cases hop
      rfl
    | resolving | onFrame | onJob => cases hop
  | @giveUp pending => exact .inr ⟨rfl, p.giveUp_acts pending, nofun⟩
  | input h =>
    refine .inr ⟨rfl, ⟨rfl, rfl, .same⟩, fun op hop => ?_⟩
    cases hop
    exact h
  | @register frames t q h =>
    refine .inr ⟨rfl, ?_, nofun⟩
    unfold ControlPlane.register at h
    rcases p.barrier.register_cases frames with ⟨e, he⟩ | ⟨hok, -, -⟩
    · rw [he] at h
      cases h
    · rw [hok] at h
      cases h
      exact ⟨rfl, rfl, .registered rfl⟩
  | @collect ticket => exact .inr ⟨rfl, ⟨rfl, rfl, .collected ticket⟩, nofun⟩
  | close => exact .inr ⟨rfl, ⟨rfl, rfl, .closed⟩, nofun⟩
  | elsewhere hoptions hinput hbarrier =>
    refine .inr ⟨rfl, ⟨hoptions, hinput, ?_⟩, nofun⟩
    rw [hbarrier]
    exact .same

theorem HostEvent.inputOps_of_frame?_eq_none (h : e.frame? = none) (mode : Mode) (port : Port) :
    e.inputOps mode port = (e.inputOp? mode).toList := by
  cases e with
  | frame => cases h
  | _ => rfl

theorem Occurs.options (h : Occurs p e q) : q.options = p.options := by
  rcases h.cases with ⟨f, -, hf⟩ | ⟨-, hacts, -⟩
  · exact hf.options
  · exact hacts.options

theorem Occurs.frame_eq (h : Occurs p e q) :
    q.barrier.frame = p.barrier.frame + (HostEvent.frames [e]).length := by
  rcases h.cases with ⟨f, rfl, hf⟩ | ⟨hnone, hacts, -⟩
  · rw [hf.barrier]
    rfl
  · rw [HostEvent.frames_singleton_of_none hnone, hacts.barrier.frame]
    rfl

/-- What an event does to a port depends on the event alone. -/
theorem Occurs.get (h : Occurs p e q) (port : Port) :
    q.input.get port = (p.input.get port).follow port (e.inputOps p.options.mode port) := by
  rcases h.cases with ⟨f, rfl, hf⟩ | ⟨hnone, hacts, -⟩
  · rw [hf.input_get]
    simp [PortInput.follow, HostEvent.inputOps, InputOp.onPort, InputOp.enabled?, InputOp.latch?,
      InputOp.countsFrame, InputOp.overlay?, PortInput.advance_eq]
  · rw [hacts.input, HostEvent.inputOps_of_frame?_eq_none hnone]
    cases e.inputOp? p.options.mode with
    | none => rfl
    | some op => exact Input.get_apply p.input op port

theorem Occurs.countsFrames (h : Occurs p e q) (port : Port) :
    InputHistory.frames port (e.inputOps p.options.mode port) = (HostEvent.frames [e]).length := by
  rcases h.cases with ⟨f, rfl, -⟩ | ⟨hnone, -, hcounts⟩
  · simp [InputHistory.frames, HostEvent.inputOps, HostEvent.frames, HostEvent.frame?,
      InputOp.countsFrame]
  · rw [HostEvent.inputOps_of_frame?_eq_none hnone, HostEvent.frames_singleton_of_none hnone]
    cases hop : e.inputOp? p.options.mode with
    | none => rfl
    | some op => simp [InputHistory.frames, hcounts op hop port]

theorem Occurs.fresh (h : Occurs p e q) (hp : p.barrier.Fresh) : q.barrier.Fresh := by
  rcases h.cases with ⟨f, -, hf⟩ | ⟨-, hacts, -⟩
  · rw [hf.barrier]
    exact hp.advance
  · exact hacts.barrier.fresh hp

theorem Occurs.wasOpen (h : Occurs p e q) (hopen : q.barrier.closed = false) :
    p.barrier.closed = false := by
  rcases h.cases with ⟨f, -, hf⟩ | ⟨-, hacts, -⟩
  · rwa [hf.barrier] at hopen
  · exact hacts.barrier.wasOpen hopen

theorem Occurs.waits {t : Ticket} (h : Occurs p e q) (ht : p.barrier.Waits t)
    (hopen : q.barrier.closed = false) (hahead : q.barrier.frame < t.target) :
    q.barrier.Waits t := by
  rcases h.cases with ⟨f, -, hf⟩ | ⟨-, hacts, -⟩
  · rw [hf.barrier] at hahead ⊢
    exact ht.advance hahead
  · exact hacts.barrier.waits ht hopen

/-! ## Runs -/

/-- A host goes through the events of a log, in their order. -/
abbrev Runs : ControlPlane σ → List HostEvent → ControlPlane σ → Prop := Trace Occurs

namespace Runs

open HostEvent (frames history)

variable {log : List HostEvent}

theorem frame_eq (h : Runs p log q) : q.barrier.frame = p.barrier.frame + (frames log).length := by
  induction h with
  | stop p => rfl
  | @next p q r e log h _ ih =>
    rw [ih, h.frame_eq, HostEvent.frames_cons e log, List.length_append, Nat.add_assoc]

theorem get (h : Runs p log q) (port : Port) :
    q.input.get port = (p.input.get port).follow port (history p.options.mode port log) := by
  induction h with
  | stop p => rfl
  | next h _ ih =>
    rw [ih, h.get, h.options, ← PortInput.follow_append]
    rfl

theorem countsFrames (h : Runs p log q) (port : Port) :
    InputHistory.frames port (history p.options.mode port log) = (frames log).length := by
  induction h with
  | stop p => rfl
  | @next p q r e log h _ ih =>
    have hone := h.countsFrames port
    rw [h.options] at ih
    rw [HostEvent.frames_cons e log, List.length_append, ← ih, ← hone]
    exact List.countP_append

theorem fresh (h : Runs p log q) (hp : p.barrier.Fresh) : q.barrier.Fresh := by
  induction h with
  | stop p => exact hp
  | next h _ ih => exact ih (h.fresh hp)

theorem wasOpen (h : Runs p log q) (hopen : q.barrier.closed = false) :
    p.barrier.closed = false := by
  induction h with
  | stop p => exact hopen
  | next h _ ih => exact h.wasOpen (ih hopen)

/-- A ticket waits up to its frame as long as nobody closes the barrier. -/
theorem waits {t : Ticket} (h : Runs p log q) (ht : p.barrier.Waits t)
    (hopen : q.barrier.closed = false) (hahead : q.barrier.frame < t.target) :
    q.barrier.Waits t := by
  induction h with
  | stop p => exact ht
  | next h hlater ih =>
    refine ih (h.waits ht (wasOpen hlater hopen) ?_) hopen hahead
    rw [frame_eq hlater] at hahead
    omega

end Runs

end ConsoleLink
