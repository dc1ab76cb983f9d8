import ConsoleLink.Proofs.Jobs.Desk
import ConsoleLink.Proofs.Remote.Hosting
import ConsoleLink.Proofs.Watch.History

/-! # A step taken apart

While the simulation goes through a step, requests take their actions between any two parts of it. A
schedule says in which order the parts and the actions came. Whatever the schedule, the watches are
what the operations of its events make of them, and the barrier follows the frames that the machine
has run. A step that nobody disturbs is one of the schedules.
-/

namespace ConsoleLink

/-- The watches that a job resolves. -/
def Job.names {σ : Type} : Job σ → List String
  | .resolve names => names
  | _ => []

/-- What the first action of a command does to the watches. -/
def Command.watchOps : Command → List WatchOp
  | .defineWatches definitions => definitions.map fun d => .define d.1 d.2
  | _ => []

namespace Schedule

/-- How far the simulation has got in a step. -/
inductive Stage where
  /-- It does the jobs that are queued; between steps it waits for more. -/
  | serving
  /-- It has yet to sample these ports, and has these pads of the others. -/
  | sampling (pads : Pads) (ports : List Port)
  /-- The machine has run a frame. -/
  | emulated
  /-- The watches are refreshed, and the frame has yet to be counted. -/
  | refreshed

/-- The state that the simulation and the requests share, and the part of a step that is next. -/
structure Moment (σ : Type) where
  stage : Stage
  plane : ControlPlane σ

/-- What is done in one go. -/
inductive Event where
  /-- The next job; it resolves these watches on this memory. -/
  | job (names : List String) (m : Memory)
  /-- A step ends without a frame. -/
  | idle
  /-- A frame begins. -/
  | begin
  | sample (port : Port)
  /-- The machine runs the frame. -/
  | emulate
  /-- Every watch is resolved on this memory. -/
  | refresh (m : Memory)
  /-- The frame is counted. -/
  | count
  /-- The first action of a request. -/
  | call (method : String) (params : Json) (progress : Progress)
  /-- A later action of a request. -/
  | resume (pending : Pending) (progress : Progress)
  /-- The end of a wait that has lasted too long. -/
  | giveUp (pending : Pending) (progress : Progress)
  | define (name : String) (d : WatchDescriptor)
  /-- The value of a watch is looked up. -/
  | fetch (name : String) (value : Option String)
  /-- An operation on the input of a port. -/
  | input (op : InputOp)
  /-- A wait for frames is registered. -/
  | register (frames : Nat)
  | collect (ticket : Ticket) (result : Except WaitError (Option Nat))
  | close
  | submit
  /-- Someone takes the answer to a job. -/
  | take (id : Nat)
  /-- Whoever waited for a job has given up. -/
  | abandon (id : Nat)
  /-- The simulation goes away. -/
  | drop

namespace Event

/-- What an event does to the watches. -/
def watchOps : Event → List WatchOp
  | .job names m => names.map fun name => .resolve name m
  | .refresh m => [.resolveAll m]
  | .call method params _ =>
    match Command.ofCall method params with
    | .ok command => command.watchOps
    | .error _ => []
  | .define name d => [.define name d]
  | _ => []

def isEmulation : Event → Bool
  | .emulate => true
  | _ => false

end Event

/-- What the events of a schedule did to the watches. -/
def history (log : List Event) : List WatchOp := log.flatMap Event.watchOps

/-- How many frames the machine has run. -/
def emulations (log : List Event) : Nat := log.countP Event.isEmulation

theorem history_append (log later : List Event) :
    history (log ++ later) = history log ++ history later := List.flatMap_append

theorem history_concat (log : List Event) (e : Event) :
    history (log ++ [e]) = history log ++ e.watchOps := by
  rw [history_append]
  simp [history]

theorem emulations_append (log later : List Event) :
    emulations (log ++ later) = emulations log + emulations later := List.countP_append

theorem emulations_concat (log : List Event) (e : Event) :
    emulations (log ++ [e]) = emulations log + if e.isEmulation then 1 else 0 := by
  rw [emulations_append, emulations, emulations, List.countP_singleton]

variable {σ : Type} [Machine σ]

/-- The moment at which a machine begins to be served. -/
def start (options : Options) (machine : σ) : Moment σ := ⟨.serving, { options, machine }⟩

/-- An event takes a moment to the next. The jobs of a step are those that are there when it looks
for the next one, so the step goes on once it has found none; then the run state counts. A machine
that panics over its frame takes the simulation no further. -/
inductive Step : Moment σ → Event → Moment σ → Prop where
  | job {p : ControlPlane σ} {first : QueuedJob (Job σ)} {rest : List (QueuedJob (Job σ))}
      {jobs : JobQueue (Job σ) Reply} {watches : Registry} {machine : σ}
      (hpending : p.jobs.pending = first :: rest)
      (h : (p.jobs.runNext ControlPlane.perform (p.watches, p.machine)).Yields
        (jobs, watches, machine)) :
      Step ⟨.serving, p⟩ (.job first.job.names (Machine.memory p.machine))
        ⟨.serving, { p with jobs := jobs, watches := watches, machine := machine }⟩
  | idle {p : ControlPlane σ} (hjobs : p.jobs.pending = [])
      (hstate : Machine.runState p.machine = .paused) : Step ⟨.serving, p⟩ .idle ⟨.serving, p⟩
  | begin {p : ControlPlane σ} (hjobs : p.jobs.pending = [])
      (hstate : Machine.runState p.machine = .running) :
      Step ⟨.serving, p⟩ .begin
        ⟨.sampling (.replicate portCount .neutral) (List.finRange portCount), p⟩
  | sample {p : ControlPlane σ} {pads : Pads} {port : Port} {ports : List Port} :
      Step ⟨.sampling pads (port :: ports), p⟩ (.sample port)
        ⟨.sampling (pads.set port (p.samplePort port).1 port.isLt) ports, (p.samplePort port).2⟩
  | emulate {p q : ControlPlane σ} {pads : Pads} (h : p.emulate pads = some q) :
      Step ⟨.sampling pads [], p⟩ .emulate ⟨.emulated, q⟩
  | refresh {p : ControlPlane σ} :
      Step ⟨.emulated, p⟩ (.refresh (Machine.memory p.machine)) ⟨.refreshed, p.refreshWatches⟩
  | count {p : ControlPlane σ} : Step ⟨.refreshed, p⟩ .count ⟨.serving, p.countFrame⟩
  | call {stage : Stage} {p : ControlPlane σ} {method : String} {params : Json} :
      Step ⟨stage, p⟩ (.call method params (p.call method params).1)
        ⟨stage, (p.call method params).2⟩
  | resume {stage : Stage} {p q : ControlPlane σ} {pending : Pending} {progress : Progress}
      (h : (p.resume pending).Yields (progress, q)) :
      Step ⟨stage, p⟩ (.resume pending progress) ⟨stage, q⟩
  | giveUp {stage : Stage} {p : ControlPlane σ} {pending : Pending} :
      Step ⟨stage, p⟩ (.giveUp pending (p.giveUp pending).1) ⟨stage, (p.giveUp pending).2⟩
  | define {stage : Stage} {p : ControlPlane σ} {name : String} {d : WatchDescriptor} :
      Step ⟨stage, p⟩ (.define name d) ⟨stage, { p with watches := p.watches.define name d }⟩
  | fetch {stage : Stage} {p : ControlPlane σ} {name : String} :
      Step ⟨stage, p⟩ (.fetch name (p.watches.value? name)) ⟨stage, p⟩
  | input {stage : Stage} {p : ControlPlane σ} {op : InputOp} :
      Step ⟨stage, p⟩ (.input op) ⟨stage, { p with input := p.input.apply op }⟩
  | register {stage : Stage} {p : ControlPlane σ} {frames : Nat} {ticket : Ticket} {b : Barrier}
      (h : p.barrier.register frames = .ok (ticket, b)) :
      Step ⟨stage, p⟩ (.register frames) ⟨stage, { p with barrier := b }⟩
  | collect {stage : Stage} {p : ControlPlane σ} {ticket : Ticket} :
      Step ⟨stage, p⟩ (.collect ticket (p.barrier.collect ticket).1)
        ⟨stage, { p with barrier := (p.barrier.collect ticket).2 }⟩
  | close {stage : Stage} {p : ControlPlane σ} :
      Step ⟨stage, p⟩ .close ⟨stage, { p with barrier := p.barrier.close }⟩
  | submit {stage : Stage} {p : ControlPlane σ} {job : Job σ} {awaited : Bool} {id : Nat}
      {jobs : JobQueue (Job σ) Reply} (h : p.jobs.submit job awaited = .ok (id, jobs)) :
      Step ⟨stage, p⟩ .submit ⟨stage, { p with jobs := jobs }⟩
  | take {stage : Stage} {p : ControlPlane σ} {id : Nat} :
      Step ⟨stage, p⟩ (.take id) ⟨stage, { p with jobs := (p.jobs.collect id).2 }⟩
  | abandon {stage : Stage} {p : ControlPlane σ} {id : Nat} :
      Step ⟨stage, p⟩ (.abandon id) ⟨stage, { p with jobs := p.jobs.abandon id }⟩
  | drop {stage : Stage} {p : ControlPlane σ} :
      Step ⟨stage, p⟩ .drop ⟨stage, p.abandonSimulation⟩

/-- The events of a schedule take place in their order. -/
abbrev Run : Moment σ → List Event → Moment σ → Prop := Trace Step

end Schedule

/-! ## The watches -/

namespace Registry

theorem defineAll_eq_follow (r : Registry) (definitions : List (String × WatchDescriptor)) :
    r.defineAll definitions = r.follow (definitions.map fun d => .define d.1 d.2) := by
  rw [follow, List.foldl_map]
  rfl

theorem resolveNames_eq_follow (r : Registry) (m : Memory) (names : List String) :
    r.resolveNames m names = r.follow (names.map fun name => .resolve name m) := by
  rw [follow, List.foldl_map]
  rfl

end Registry

variable {σ : Type} {p q : ControlPlane σ}

namespace ControlPlane

theorem handIn_watches (p : ControlPlane σ) (command : Command) (job : Job σ) :
    (p.handIn command job).2.watches = p.watches := by
  unfold handIn
  split <;> rfl

theorem waitFor_watches (p : ControlPlane σ) (frames : Nat) (next : Ticket → Pending) :
    (p.waitFor frames next).2.watches = p.watches := by
  unfold waitFor register
  cases p.barrier.register frames <;> rfl

theorem start_watches (p : ControlPlane σ) (command : Command) :
    (p.start command).2.watches = p.watches.follow command.watchOps := by
  cases command with
  | latch | enable | readWatches => rfl
  | defineWatches definitions => exact p.watches.defineAll_eq_follow definitions
  | hold port overlay =>
    unfold start
    dsimp only
    cases p.options.mode with
    | realTime => rfl
    | turnBased => exact p.waitFor_watches _ _
  | waitFrames frames => exact p.waitFor_watches _ _
  | boot | save | load | describe | setRunState | screenshot | status =>
    exact p.handIn_watches _ _

/-- All that a later action of a request can do. -/
theorem resume_cases {pending : Pending} {progress : Progress}
    (h : (p.resume pending).Yields (progress, q)) :
    q = p ∨ (∃ port overlay, q = p.queueOverlay port overlay) ∨
    (∃ command job, q = (p.handIn command job).2) ∨
    (∃ ticket, q = { p with barrier := (p.barrier.collect ticket).2 }) ∨
    ∃ command id result, pending = .onJob command id ∧ progress = .answered result ∧
      q = { p with jobs := (p.jobs.collect id).2 } := by
  cases pending with
  | queueing port overlay ticket =>
    cases Access.yields_pure_iff.mp h
    exact .inr (.inl ⟨port, overlay, rfl⟩)
  | resolving definitions =>
    exact .inr (.inr (.inl ⟨_, _, congrArg Prod.snd (Access.yields_pure_iff.mp h)⟩))
  | onFrame ticket holder =>
    rw [resume_onFrame] at h
    exact .inr (.inr (.inr (.inl ⟨ticket, congrArg Prod.snd (Access.yields_pure_iff.mp h)⟩)))
  | onJob command id =>
    unfold resume at h
    dsimp only at h
    rcases hcollect : p.jobs.collect id with ⟨_ | e | reply, jobs⟩ <;> rw [hcollect] at h
    · have hsame := JobQueue.collect_of_fst_none (congrArg Prod.fst hcollect)
      rw [hcollect] at hsame
      obtain rfl : jobs = p.jobs := congrArg Prod.snd hsame
      cases Access.yields_pure_iff.mp h
      exact .inl rfl
    · cases Access.yields_pure_iff.mp h
      exact .inr (.inr (.inr (.inr ⟨command, id, _, rfl, rfl, by rw [hcollect]⟩)))
    · obtain ⟨result, -, h⟩ := Access.yields_bind_iff.mp h
      cases Access.yields_pure_iff.mp h
      exact .inr (.inr (.inr (.inr ⟨command, id, _, rfl, rfl, by rw [hcollect]⟩)))

theorem resume_watches {pending : Pending} {progress : Progress}
    (h : (p.resume pending).Yields (progress, q)) : q.watches = p.watches := by
  rcases resume_cases h with rfl | ⟨_, _, rfl⟩ | ⟨command, job, rfl⟩ | ⟨_, rfl⟩ |
    ⟨_, _, _, -, -, rfl⟩
  · rfl
  · rfl
  · exact p.handIn_watches command job
  · rfl
  · rfl

/-- All that the end of a wait can do. -/
theorem giveUp_cases (p : ControlPlane σ) (pending : Pending) :
    (p.giveUp pending).2 = p ∨
    (∃ ticket, (p.giveUp pending).2 = { p with barrier := (p.barrier.collect ticket).2 }) ∨
    ∃ command id result, pending = .onJob command id ∧ (p.giveUp pending).1 = .answered result ∧
      ((p.giveUp pending).2 = { p with jobs := (p.jobs.collect id).2 } ∨
        (p.giveUp pending).2 = { p with jobs := p.jobs.abandon id }) := by
  cases pending with
  | queueing | resolving => exact .inl rfl
  | onFrame ticket holder =>
    rw [giveUp_onFrame]
    exact .inr (.inl ⟨ticket, rfl⟩)
  | onJob command id =>
    unfold giveUp
    dsimp only
    cases hcollect : (p.jobs.collect id).1 with
    | none =>
      rw [JobQueue.collectOrTimeout_of_none hcollect]
      exact .inr (.inr ⟨command, id, _, rfl, rfl, .inr rfl⟩)
    | some answer =>
      rw [JobQueue.collectOrTimeout_of_some hcollect]
      cases answer with
      | ok reply => exact .inl rfl
      | error e => exact .inr (.inr ⟨command, id, _, rfl, rfl, .inl rfl⟩)

theorem giveUp_watches (p : ControlPlane σ) (pending : Pending) :
    (p.giveUp pending).2.watches = p.watches := by
  rcases p.giveUp_cases pending with h | ⟨_, h⟩ | ⟨_, _, _, -, -, h | h⟩ <;> rw [h]

variable [Machine σ]

/-- Only a job that resolves watches changes them. -/
theorem perform_watches {job : Job σ} {watches watches' : Registry} {s s' : σ}
    {answer : Except JobError Reply}
    (h : (perform job (watches, s)).Yields (answer, watches', s')) :
    watches' = watches.follow (job.names.map fun name => .resolve name (Machine.memory s)) := by
  cases job with
  | order order =>
    obtain ⟨⟨reply, machine⟩, -, h⟩ := Access.yields_bind_iff.mp h
    cases Access.yields_pure_iff.mp h
    rfl
  | resolve names =>
    cases Access.yields_pure_iff.mp h
    exact watches.resolveNames_eq_follow _ names
  | custom effect =>
    cases Access.yields_pure_iff.mp h
    rfl

theorem runNext_yields {q q' : JobQueue (Job σ) Reply} {first : QueuedJob (Job σ)}
    {rest : List (QueuedJob (Job σ))} {s s' : Registry × σ} (hpending : q.pending = first :: rest)
    (h : (q.runNext perform s).Yields (q', s')) :
    ∃ answer, (perform first.job s).Yields (answer, s') ∧
      q' = { q with
        pending := rest
        answers := if first.awaited then q.answers ++ [(first.id, answer)] else q.answers } := by
  unfold JobQueue.runNext at h
  rw [hpending] at h
  obtain ⟨⟨answer, after⟩, hperform, h⟩ := Access.yields_bind_iff.mp h
  cases Access.yields_pure_iff.mp h
  exact ⟨answer, hperform, rfl⟩

end ControlPlane

namespace Schedule

open ControlPlane

variable [Machine σ] {m m' : Moment σ} {e : Event} {log earlier : List Event}

theorem Step.watches (h : Step m e m') :
    m'.plane.watches = m.plane.watches.follow e.watchOps := by
  cases h with
  | job hpending h =>
    obtain ⟨answer, hperform, -⟩ := runNext_yields hpending h
    exact perform_watches hperform
  | emulate h =>
    rw [(emulate_eq_some h).2]
    rfl
  | sample | idle | begin | refresh | count => rfl
  | @call stage p method params =>
    change (p.call method params).2.watches = p.watches.follow (Event.watchOps (.call ..))
    unfold ControlPlane.call Event.watchOps
    dsimp only
    cases Command.ofCall method params with
    | ok command => exact p.start_watches command
    | error e => rfl
  | resume h => exact resume_watches h
  | giveUp => exact giveUp_watches _ _
  | define | fetch | input | register | collect | close | submit | take | abandon | drop => rfl

theorem Run.watches (h : Run m log m') :
    m'.plane.watches = m.plane.watches.follow (history log) := by
  induction h with
  | stop m => rfl
  | @next m m' m'' e log hfirst _ ih =>
    rw [ih, hfirst.watches, ← Registry.follow_append]
    rfl

/-- The watches show what the history of the schedule gives them. -/
theorem Run.value? {options : Options} {machine : σ} (h : Run (start options machine) log m)
    (name : String) : m.plane.watches.value? name = WatchHistory.value? name (history log) := by
  rw [h.watches]
  exact Registry.value?_follow_empty (history log) name

/-! ## A step that nobody disturbs -/

theorem sampling (p : ControlPlane σ) (pads : Pads) (ports : List Port) :
    Run ⟨.sampling pads ports, p⟩ (ports.map .sample)
      ⟨.sampling (p.samplePorts pads ports).1 [], (p.samplePorts pads ports).2⟩ := by
  induction ports generalizing p pads with
  | nil => exact .stop _
  | cons port ports ih => exact .next .sample (ih _ _)

/-- The jobs that are queued are done one after another, and none of them is left. -/
theorem serving {q q' : JobQueue (Job σ) Reply} {s s' : Registry × σ} (p : ControlPlane σ)
    (h : (q.runMany perform q.pending.length s).Yields (q', s')) :
    q'.pending = [] ∧ ∃ log, emulations log = 0 ∧
      Run ⟨.serving, { p with jobs := q, watches := s.1, machine := s.2 }⟩ log
        ⟨.serving, { p with jobs := q', watches := s'.1, machine := s'.2 }⟩ := by
  generalize hlength : q.pending.length = n at h
  induction n generalizing q s with
  | zero =>
    cases Access.yields_pure_iff.mp h
    exact ⟨List.eq_nil_of_length_eq_zero hlength, [], rfl, .stop _⟩
  | succ n ih =>
    obtain ⟨first, rest, hpending⟩ := List.exists_cons_of_length_eq_add_one hlength
    obtain ⟨⟨next, between⟩, hone, hlater⟩ := Access.yields_bind_iff.mp h
    obtain ⟨answer, -, hnext⟩ := runNext_yields hpending hone
    have hrest : next.pending.length = n := by
      rw [hnext]
      rw [hpending] at hlength
      exact Nat.succ.inj hlength
    obtain ⟨hempty, log, hframes, hrun⟩ := ih hrest hlater
    exact ⟨hempty, .job first.job.names (Machine.memory s.2) :: log, hframes,
      .next (.job hpending hone) hrun⟩

theorem served {p r : ControlPlane σ} (h : p.runJobs.Yields r) :
    r.jobs.pending = [] ∧ ∃ log, emulations log = 0 ∧ Run ⟨.serving, p⟩ log ⟨.serving, r⟩ := by
  obtain ⟨⟨jobs, watches, machine⟩, hmany, hr⟩ := Access.yields_bind_iff.mp h
  cases Access.yields_pure_iff.mp hr
  exact serving p hmany

/-- A frame on a machine that runs begins with the ports, each of which is sampled. -/
theorem begun_sampled {p : ControlPlane σ} (hjobs : p.jobs.pending = [])
    (hstate : Machine.runState p.machine = .running) :
    Run ⟨.serving, p⟩ (.begin :: (List.finRange portCount).map .sample)
      ⟨.sampling p.samplePads.1 [], p.samplePads.2⟩ :=
  .next (.begin hjobs hstate) (sampling p _ _)

/-- A step of the simulation is a schedule, with an emulation if it emulates a frame. No job is left
in the queue. -/
theorem run_of_step {p q : ControlPlane σ} {emulated : Bool}
    (h : p.step.Yields (some emulated, q)) :
    q.jobs.pending = [] ∧
      ∃ log, emulations log = emulated.toNat ∧ Run ⟨.serving, p⟩ log ⟨.serving, q⟩ := by
  rcases (step_yields_iff (some emulated)).mp h with
    ⟨⟨⟩, f, r, hjobs, hstate, -, hframe⟩ | ⟨⟨⟩, hjobs, hstate⟩ | ⟨⟨⟩, -⟩
  · obtain ⟨hempty, log, hframes, hserved⟩ := served hjobs
    obtain ⟨s, hs, rfl⟩ := Option.map_eq_some_iff.mp hframe
    have hrest : Run ⟨.sampling r.samplePads.1 [], r.samplePads.2⟩ [.emulate, .refresh _, .count]
        ⟨.serving, s.refreshWatches.countFrame⟩ :=
      .next (.emulate hs) (.next .refresh (.one .count))
    have hwhole := hserved.append ((begun_sampled hempty hstate).append hrest)
    refine ⟨(congrArg JobQueue.pending (runFrame_jobs hframe)).trans hempty, _, ?_, hwhole⟩
    rw [emulations_append, hframes]
    rfl
  · obtain ⟨hempty, log, hframes, hserved⟩ := served hjobs
    refine ⟨hempty, log ++ [.idle], ?_, hserved.append (.one (.idle hempty hstate))⟩
    rw [emulations_concat, hframes]
    rfl

/-- A step whose machine panics is a schedule up to the emulation, for which there is no event. -/
theorem run_of_panic {p q : ControlPlane σ} (h : p.step.Yields (none, q)) :
    ∃ log pads, emulations log = 0 ∧ Run ⟨.serving, p⟩ log ⟨.sampling pads [], q⟩ ∧
      ∀ m, ¬Step ⟨.sampling pads [], q⟩ .emulate m := by
  rcases (step_yields_iff none).mp h with ⟨⟨⟩, -⟩ | ⟨⟨⟩, -⟩ | ⟨-, r, hjobs, hstate, hframe, rfl⟩
  obtain ⟨hempty, log, hframes, hserved⟩ := served hjobs
  have hnone : r.samplePads.2.emulate r.samplePads.1 = none := Option.map_eq_none_iff.mp hframe
  refine ⟨_, _, ?_, hserved.append (begun_sampled hempty hstate), ?_⟩
  · rw [emulations_append, hframes]
    rfl
  · intro m hstep
    cases hstep with
    | emulate hsome => exact nomatch hnone.symm.trans hsome

end Schedule

end ConsoleLink
