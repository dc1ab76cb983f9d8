import ConsoleLink.Machine.Headless
import ConsoleLink.Proofs.Remote.Stories

/-! # The end of the simulation

The simulation goes from step to step until it finds its flag raised. Then it does the jobs that are
queued until it finds none, closes the barrier and returns, while requests go on all the time.
Nobody is left waiting for a frame. A job that was handed in before the queue was found empty is
answered; a job that is handed in later stays in the queue for good, and its submitter waits for it:
the simulation returns without closing its queue.
-/

namespace ConsoleLink

open ControlPlane Schedule

/-! ## The loop -/

/-- How far the simulation has got. -/
inductive Phase where
  /-- Between two steps; it looks at its flag next. -/
  | between
  /-- In a step. -/
  | stepping
  /-- It has found the flag raised, and does the jobs that are queued. -/
  | draining
  /-- It has found no job in the queue. -/
  | drained
  /-- It has closed the barrier and returned. -/
  | returned
  deriving DecidableEq

/-- A simulation, its flag, and the moment that it and the requests are at. -/
structure Loop (σ : Type) where
  phase : Phase
  stopping : Bool
  moment : Moment σ

namespace Loop

variable {σ : Type}

def plane (l : Loop σ) : ControlPlane σ := l.moment.plane

def jobs (l : Loop σ) : JobQueue (Job σ) Reply := l.plane.jobs

/-- The barrier is closed as the simulation returns. -/
def closed (m : Moment σ) : Moment σ := ⟨m.stage, { m.plane with barrier := m.plane.barrier.close }⟩

end Loop

namespace Schedule.Event

/-- Whether an event is a part of a step. -/
def isStep : Event → Bool
  | .job _ _ | .idle | .begin | .sample _ | .emulate | .refresh _ | .count => true
  | _ => false

/-- Whether a step ends with an event. -/
def endsStep : Event → Bool
  | .idle | .count => true
  | _ => false

/-- Whether an event is one that others than the simulation and its owner bring about. -/
def isRequest : Event → Bool
  | .drop => false
  | e => !e.isStep

end Schedule.Event

variable {σ : Type} [Machine σ]

/-- What happens next to a loop. -/
inductive Turn (σ : Type) [Machine σ] where
  /-- Someone raises the flag, or lowers it again. -/
  | flag (up : Bool)
  /-- The flag is found lowered, and a step begins. -/
  | enter
  /-- The simulation does a part of a step, or a job of those at the end. -/
  | simulate (entry : Entry σ)
  /-- A request takes an action. -/
  | request (e : Event)
  /-- The flag is found raised. -/
  | leave
  /-- No job is found in the queue. -/
  | drained
  /-- The barrier is closed, and the simulation returns. -/
  | close

/-- The job that a turn did. -/
def Turn.work? : Turn σ → Option (Work σ)
  | .simulate entry => entry.work?
  | _ => none

/-- A turn takes a loop on. -/
inductive Turns : Loop σ → Turn σ → Loop σ → Prop where
  | flag {phase : Phase} {stopping up : Bool} {m : Moment σ} :
      Turns ⟨phase, stopping, m⟩ (.flag up) ⟨phase, up, m⟩
  | enter {m : Moment σ} : Turns ⟨.between, false, m⟩ .enter ⟨.stepping, false, m⟩
  | simulate {stopping : Bool} {m m' : Moment σ} {entry : Entry σ} (h : Tells m entry m')
      (hentry : entry.toEvent.isStep = true) :
      Turns ⟨.stepping, stopping, m⟩ (.simulate entry)
        ⟨if entry.toEvent.endsStep then .between else .stepping, stopping, m'⟩
  | drain {stopping : Bool} {m m' : Moment σ} {w : Work σ} (h : Tells m (.work w) m') :
      Turns ⟨.draining, stopping, m⟩ (.simulate (.work w)) ⟨.draining, stopping, m'⟩
  | request {phase : Phase} {stopping : Bool} {m m' : Moment σ} {e : Event} (h : Step m e m')
      (he : e.isRequest = true) :
      Turns ⟨phase, stopping, m⟩ (.request e) ⟨phase, stopping, m'⟩
  | leave {m : Moment σ} : Turns ⟨.between, true, m⟩ .leave ⟨.draining, true, m⟩
  | drained {stopping : Bool} {m : Moment σ} (h : m.plane.jobs.pending = []) :
      Turns ⟨.draining, stopping, m⟩ .drained ⟨.drained, stopping, m⟩
  | close {stopping : Bool} {m : Moment σ} :
      Turns ⟨.drained, stopping, m⟩ .close ⟨.returned, stopping, Loop.closed m⟩

/-- A simulation that begins to loop. -/
def Loop.start (options : Options) (machine : σ) : Loop σ :=
  ⟨.between, false, Schedule.start options machine⟩

/-- The jobs that were done. -/
def done (log : List (Turn σ)) : List (Work σ) := log.filterMap Turn.work?

/-- Nobody takes the answer to a job, or ceases to wait for it. -/
def Unattended (id : Nat) (log : List (Turn σ)) : Prop :=
  ∀ e, Turn.request e ∈ log → e.attended? ≠ some id

variable {l l' : Loop σ} {turn : Turn σ} {log later : List (Turn σ)} {m m' : Moment σ} {e : Event}

theorem done_append (log later : List (Turn σ)) : done (log ++ later) = done log ++ done later :=
  List.filterMap_append

theorem done_nil : done ([] : List (Turn σ)) = [] := rfl

theorem done_cons_of_none (h : turn.work? = none) : done (turn :: log) = done log :=
  List.filterMap_cons_none h

/-! ## The barrier -/

namespace Barrier

/-- Nobody waits for a frame, and nobody will. -/
structure Shut (b : Barrier) : Prop where
  closed : b.closed = true
  waiters : b.waiters = []

variable {b : Barrier}

theorem shut_close (b : Barrier) : b.close.Shut := ⟨rfl, rfl⟩

theorem Shut.advance (hb : b.Shut) : b.advance.Shut where
  closed := hb.closed
  waiters := by
    change b.waiters.filter _ = []
    rw [hb.waiters]
    rfl

theorem Shut.collect (hb : b.Shut) (t : Ticket) : (b.collect t).2.Shut := by
  rw [collect_snd]
  exact ⟨hb.closed, hb.waiters⟩

/-- Every wait for frames is refused. -/
theorem Shut.register (hb : b.Shut) (frames : Nat) : ∃ e, b.register frames = .error e := by
  rcases Nat.eq_zero_or_pos frames with rfl | hpos
  · exact ⟨_, b.register_zero⟩
  · exact ⟨_, register_of_closed hpos hb.closed⟩

/-- Whoever holds a ticket finds its frame, or is turned away. -/
theorem Shut.collect_cases (hb : b.Shut) (t : Ticket) :
    (∃ frame, (b.collect t).1 = .ok (some frame)) ∨
      (b.collect t).1 = .error (.closed t.target) := by
  unfold Barrier.collect
  cases b.releases.lookup t.id with
  | some frame => exact .inl ⟨frame, rfl⟩
  | none =>
    have hnot : b.isWaiting t = false := by
      rw [isWaiting, hb.waiters]
      rfl
    rw [hnot]
    exact .inr rfl

end Barrier

namespace ControlPlane

omit [Machine σ] in
theorem waitFor_shut {p : ControlPlane σ} (hp : p.barrier.Shut) (frames : Nat)
    (next : Ticket → Pending) : (p.waitFor frames next).2 = p := by
  obtain ⟨e, he⟩ := hp.register frames
  unfold waitFor register
  rw [he]

omit [Machine σ] in
theorem handIn_barrier (p : ControlPlane σ) (command : Command) (job : Job σ) :
    (p.handIn command job).2.barrier = p.barrier := by
  unfold handIn
  split <;> rfl

omit [Machine σ] in
theorem start_shut {p : ControlPlane σ} (hp : p.barrier.Shut) (command : Command) :
    (p.start command).2.barrier = p.barrier := by
  cases command with
  | latch | enable | defineWatches | readWatches => rfl
  | hold port overlay =>
    unfold start
    dsimp only
    cases p.options.mode with
    | realTime => rfl
    | turnBased => exact congrArg barrier (waitFor_shut hp _ _)
  | waitFrames frames => exact congrArg barrier (waitFor_shut hp _ _)
  | boot | save | load | describe | setRunState | screenshot | status =>
    exact p.handIn_barrier _ _

omit [Machine σ] in
theorem call_shut {p : ControlPlane σ} (hp : p.barrier.Shut) (method : String) (params : Json) :
    (p.call method params).2.barrier = p.barrier := by
  unfold call
  cases Command.ofCall method params with
  | ok command => exact start_shut hp command
  | error e => rfl

omit [Machine σ] in
theorem resume_shut {p q : ControlPlane σ} (hp : p.barrier.Shut) {pending : Pending}
    {progress : Progress} (h : (p.resume pending).Yields (progress, q)) : q.barrier.Shut := by
  rcases resume_cases h with rfl | ⟨_, _, rfl⟩ | ⟨command, job, rfl⟩ | ⟨ticket, rfl⟩ |
    ⟨_, _, _, -, -, rfl⟩
  · exact hp
  · exact hp
  · exact p.handIn_barrier command job ▸ hp
  · exact hp.collect ticket
  · exact hp

omit [Machine σ] in
theorem giveUp_shut {p : ControlPlane σ} (hp : p.barrier.Shut) (pending : Pending) :
    (p.giveUp pending).2.barrier.Shut := by
  rcases p.giveUp_cases pending with h | ⟨ticket, h⟩ | ⟨_, _, _, -, -, h | h⟩ <;> rw [h]
  · exact hp
  · exact hp.collect ticket
  · exact hp
  · exact hp

end ControlPlane

/-- A barrier that is closed and that nobody waits on stays so. -/
theorem Schedule.Step.shut (h : Step m e m') (hm : m.plane.barrier.Shut) :
    m'.plane.barrier.Shut := by
  cases h with
  | count => exact hm.advance
  | call => exact (call_shut hm _ _) ▸ hm
  | resume h => exact resume_shut hm h
  | giveUp => exact giveUp_shut hm _
  | @register stage p frames ticket b h =>
    obtain ⟨e, he⟩ := hm.register frames
    cases he.symm.trans h
  | collect => exact hm.collect _
  | close => exact Barrier.shut_close _
  | emulate h =>
    rw [(emulate_eq_some h).2]
    exact hm
  | job | idle | begin | sample | refresh | define | fetch | input | submit | take
  | abandon | drop => exact hm

theorem Turns.shut (h : Turns l turn l') (hl : l.plane.barrier.Shut) : l'.plane.barrier.Shut := by
  cases h with
  | simulate h | drain h => exact h.step.shut hl
  | request h => exact h.shut hl
  | close => exact Barrier.shut_close _
  | flag | enter | leave | drained => exact hl

/-- The simulation returns with its barrier closed. -/
theorem Turns.shut_of_returned (h : Turns l turn l')
    (hl : l.phase = .returned → l.plane.barrier.Shut) (hreturned : l'.phase = .returned) :
    l'.plane.barrier.Shut := by
  by_cases hphase : l.phase = .returned
  · exact h.shut (hl hphase)
  · cases h with
    | close => exact Barrier.shut_close _
    | flag | request | drain => exact absurd hreturned hphase
    | enter | leave | drained => cases hreturned
    | simulate =>
      dsimp only at hreturned
      split_ifs at hreturned

/-! ## Jobs that are handed in in time -/

/-- A job is in the queue, or its answer is what it came to when it was done. -/
def Owed (id : Nat) (job : Job σ) (ws : List (Work σ)) (q : JobQueue (Job σ) Reply) : Prop :=
  q.Kept id job fun answer => ∃ w ∈ ws, w.job = job ∧ answer = w.answer

variable {id : Nat} {job : Job σ} {ws : List (Work σ)} {P : Except JobError Reply → Prop}

/-- Neither a request nor a frame does anything to a job that nobody attends to. -/
theorem Schedule.Step.kept (h : Step m e m') (hjob : e.isJob = false) (hdrop : e ≠ .drop)
    (hid : e.attended? ≠ some id) (hm : m.plane.jobs.Kept id job P) :
    m'.plane.jobs.Kept id job P := by
  cases h.queues with
  | extended h =>
    rcases h with hsame | ⟨-, other, awaited, htaken⟩
    · rwa [hsame]
    · rw [htaken]
      exact hm.withJob other awaited
  | @attended other hother h =>
    have hne : id ≠ other := by
      rintro rfl
      exact hid hother
    rcases h with hcollected | habandoned
    · rw [hcollected]
      exact hm.collect hne
    · rw [habandoned]
      exact hm.abandon hne
  | dropped he => exact absurd he hdrop
  | ran _ he =>
    rw [he] at hjob
    cases hjob

/-- What is owed when another job is done, and when it is done itself. -/
theorem Tells.owed {w : Work σ} (h : Tells m (.work w) m') (hm : Owed id job ws m.plane.jobs) :
    Owed id job (ws ++ [w]) m'.plane.jobs := by
  cases h with
  | work hpending hjob =>
    refine (hm.mono ?_).withoutFirst hpending fun hid => ?_
    · rintro answer ⟨v, hv, hanswer⟩
      exact ⟨v, List.mem_append_left _ hv, hanswer⟩
    · have hfirst := (hm.queued _ (hpending ▸ List.mem_cons_self) hid).1
      exact ⟨w, List.mem_append_right _ (List.mem_singleton_self w), hjob.symm.trans hfirst, rfl⟩

namespace Schedule.Event

theorem isJob_of_isRequest (he : e.isRequest = true) : e.isJob = false ∧ e ≠ .drop := by
  cases e with
  | job | drop => cases he
  | _ => exact ⟨rfl, nofun⟩

theorem attended?_of_isStep (he : e.isStep = true) (id : Nat) :
    e ≠ .drop ∧ e.attended? ≠ some id := by
  cases e with
  | job | idle | begin | sample | emulate | refresh | count => exact ⟨nofun, nofun⟩
  | _ => cases he

end Schedule.Event

theorem Turns.owed (h : Turns l turn l') (hturn : Unattended id [turn])
    (hl : Owed id job ws l.jobs) : Owed id job (ws ++ done [turn]) l'.jobs := by
  cases h with
  | @simulate stopping m m' entry h hentry =>
    cases entry with
    | work w => exact h.owed hl
    | event e =>
      rcases h with _ | ⟨h, hjob⟩
      obtain ⟨hdrop, hid⟩ := Event.attended?_of_isStep hentry id
      rw [done_cons_of_none rfl, done_nil, List.append_nil]
      exact h.kept hjob hdrop hid hl
  | drain h => exact h.owed hl
  | @request phase stopping m m' e h he =>
    obtain ⟨hjob, hdrop⟩ := Event.isJob_of_isRequest he
    rw [done_cons_of_none rfl, done_nil, List.append_nil]
    exact h.kept hjob hdrop (hturn e (List.mem_singleton_self _)) hl
  | flag | enter | leave | drained | close =>
    refine hl.mono ?_
    rintro answer ⟨v, hv, hanswer⟩
    exact ⟨v, List.mem_append_left _ hv, hanswer⟩

theorem owed_of_trace (h : Trace Turns l log l') (hlog : Unattended id log)
    (hl : Owed id job ws l.jobs) : Owed id job (ws ++ done log) l'.jobs := by
  induction h generalizing ws with
  | stop l => rwa [done_nil, List.append_nil]
  | @next l between l' turn log hfirst _ ih =>
    have hone := hfirst.owed (fun e he => hlog e (List.mem_singleton.mp he ▸ List.mem_cons_self)) hl
    have hrest := ih (fun e he => hlog e (List.mem_cons_of_mem _ he)) hone
    rwa [List.append_assoc, ← done_append] at hrest

theorem Turns.numbered (h : Turns l turn l') (hl : l.jobs.Numbered) : l'.jobs.Numbered := by
  cases h with
  | simulate h | drain h => exact h.step.numbered hl
  | request h => exact h.numbered hl
  | flag | enter | leave | drained | close => exact hl

/-! ## Jobs that are handed in too late -/

/-- The simulation will do no more jobs. -/
def Phase.isLate : Phase → Bool
  | .drained | .returned => true
  | _ => false

/-- The jobs from this number on are in the queue, and there is no answer to any of them. -/
structure Stranded (n : Nat) (q : JobQueue (Job σ) Reply) : Prop where
  since : n ≤ q.issued
  pending : q.pending.map (·.id) = List.range' n (q.issued - n)
  answers : ∀ a ∈ q.answers, a.1 < n

variable {n : Nat} {q : JobQueue (Job σ) Reply}

omit [Machine σ] in
theorem stranded_nil (hq : q.Numbered) (hnone : q.pending = []) : Stranded q.issued q where
  since := le_rfl
  pending := by
    rw [hnone, Nat.sub_self]
    rfl
  answers := hq.answers

namespace Stranded

omit [Machine σ] in
theorem withJob (hq : Stranded n q) (job : Job σ) (awaited : Bool) :
    Stranded n (Desk.withJob q job awaited) where
  since := Nat.le_succ_of_le hq.since
  pending := by
    have hlast : n + (q.issued - n) = q.issued := Nat.add_sub_cancel' hq.since
    rw [Desk.withJob, List.map_append, hq.pending, Nat.succ_sub hq.since, List.range'_concat,
      Nat.one_mul, hlast]
    rfl
  answers := hq.answers

omit [Machine σ] in
theorem collect (hq : Stranded n q) (id : Nat) : Stranded n (q.collect id).2 := by
  obtain ⟨hpending, hissued, -, -⟩ := q.collect_snd id
  constructor
  · exact hissued ▸ hq.since
  · rw [hpending, hissued, hq.pending]
  · exact fun a ha => hq.answers a (JobQueue.mem_of_mem_collect ha)

omit [Machine σ] in
theorem abandon (hq : Stranded n q) (id : Nat) : Stranded n (q.abandon id) where
  since := hq.since
  pending := (JobQueue.map_pending_abandon _ fun _ => rfl).trans hq.pending
  answers a ha := hq.answers a (List.mem_of_mem_filter ha)

omit [Machine σ] in
/-- Whoever looks for the answer to such a job finds none. -/
theorem collect_eq_none (hq : Stranded n q) (hlate : n ≤ id) (hid : id < q.issued) :
    (q.collect id).1 = none := by
  have hanswers : q.answers.lookup id = none := by
    refine List.lookup_eq_none_iff.mpr fun a ha => ?_
    have hlt := hq.answers a ha
    exact bne_iff_ne.mpr (by omega)
  have hqueued : id ∈ q.pending.map (·.id) := by
    rw [hq.pending, List.mem_range'_1]
    omega
  exact congrArg Prod.fst (JobQueue.collect_of_queued hanswers hqueued)

theorem step (hm : Stranded n m.plane.jobs) (h : Step m e m') (he : e.isRequest = true) :
    Stranded n m'.plane.jobs := by
  obtain ⟨hjob, hdrop⟩ := Event.isJob_of_isRequest he
  cases h.queues with
  | extended h =>
    rcases h with hsame | ⟨-, job, awaited, htaken⟩
    · rwa [hsame]
    · rw [htaken]
      exact hm.withJob job awaited
  | attended _ h =>
    rcases h with hcollected | habandoned
    · rw [hcollected]
      exact hm.collect _
    · rw [habandoned]
      exact hm.abandon _
  | dropped he => exact absurd he hdrop
  | ran _ he =>
    rw [he] at hjob
    cases hjob

/-- Nothing that happens once the simulation does no more jobs helps one of them. -/
theorem turns (hl : Stranded n l.jobs) (hlate : l.phase.isLate = true) (h : Turns l turn l') :
    Stranded n l'.jobs ∧ l'.phase.isLate = true ∧ turn.work? = none := by
  cases h with
  | simulate | drain | enter | leave | drained => cases hlate
  | flag => exact ⟨hl, hlate, rfl⟩
  | close => exact ⟨hl, rfl, rfl⟩
  | request h he => exact ⟨hl.step h he, hlate, rfl⟩

theorem trace (hl : Stranded n l.jobs) (hlate : l.phase.isLate = true)
    (h : Trace Turns l log l') : Stranded n l'.jobs ∧ done log = [] := by
  induction h with
  | stop l => exact ⟨hl, rfl⟩
  | @next l between l' turn log hfirst _ ih =>
    obtain ⟨hnext, hphase, hnone⟩ := hl.turns hlate hfirst
    obtain ⟨hlast, hrest⟩ := ih hnext hphase
    rw [done_cons_of_none hnone]
    exact ⟨hlast, hrest⟩

end Stranded

theorem Turns.late (h : Turns l turn l') (hearly : l.phase.isLate = false)
    (hlate : l'.phase.isLate = true) : turn = .drained := by
  cases h with
  | drained => rfl
  | simulate =>
    dsimp only at hlate
    split_ifs at hlate <;> cases hlate
  | flag | request => exact nomatch hearly.symm.trans hlate
  | enter | drain | leave => cases hlate
  | close => cases hearly

/-- A simulation that has returned once found its queue empty. -/
theorem exists_emptied (h : Trace Turns l log l') (hearly : l.phase.isLate = false)
    (hlate : l'.phase.isLate = true) :
    ∃ before after l₁ l₂, log = before ++ .drained :: after ∧ Trace Turns l before l₁ ∧
      Turns l₁ .drained l₂ ∧ Trace Turns l₂ after l' := by
  induction h with
  | stop l => exact nomatch hearly.symm.trans hlate
  | @next l between l' turn log hfirst hrest ih =>
    cases hphase : between.phase.isLate with
    | true =>
      obtain rfl := hfirst.late hearly hphase
      exact ⟨[], log, l, between, rfl, .stop l, hfirst, hrest⟩
    | false =>
      obtain ⟨before, after, l₁, l₂, rfl, hbefore, hdrained, hafter⟩ := ih hphase hlate
      exact ⟨turn :: before, after, l₁, l₂, rfl, .next hfirst hbefore, hdrained, hafter⟩

/-! ## An end that nobody disturbs -/

theorem draining {stopping : Bool} (h : Story m (ws.map .work) m') :
    Trace Turns ⟨.draining, stopping, m⟩ (ws.map fun w => .simulate (.work w))
      ⟨.draining, stopping, m'⟩ := by
  induction ws generalizing m with
  | nil =>
    rcases h with _ | _
    exact .stop _
  | cons w ws ih =>
    rcases h with _ | ⟨hfirst, hlater⟩
    exact .next (.drain hfirst) (ih hlater)

/-- The end of the simulation, if nothing happens in between, is one of the ends. -/
theorem trace_of_finish {p q : ControlPlane σ} (h : p.finish.Yields q) (stopping : Bool) :
    ∃ ws : List (Work σ), ws.map (·.job) = p.jobs.pending.map (·.job) ∧
      Trace Turns ⟨.draining, stopping, ⟨.serving, p⟩⟩
        (ws.map (fun w => .simulate (.work w)) ++ [.drained, .close])
        ⟨.returned, stopping, ⟨.serving, q⟩⟩ := by
  obtain ⟨r, hjobs, h⟩ := Access.yields_bind_iff.mp h
  cases Access.yields_pure_iff.mp h
  obtain ⟨hnone, ws, hws, hstory⟩ := exists_works_of_runJobs hjobs
  exact ⟨ws, hws, (draining hstory).append (.next (.drained hnone) (.one .close))⟩

/-! ## Who is answered -/

/-- A simulation loops until its flag is raised and returns, amid whatever requests.

Once it has returned nobody waits for a frame and nobody will: a ticket has its frame or is turned
away, and a new wait is refused. There was a time when the queue was found empty for the last time.
A job that was handed in before that time, and whose answer nobody took, was done, and its answer is
there. The jobs that were handed in after it are all still in the queue, and none has an answer. -/
theorem answered_iff_in_time {options : Options} {machine : σ}
    (h : Trace Turns (Loop.start options machine) log l) (hreturned : l.phase = .returned) :
    (l.plane.barrier.waiters = [] ∧
      (∀ frames, ∃ e, l.plane.barrier.register frames = .error e) ∧
      ∀ ticket, (∃ frame, (l.plane.barrier.collect ticket).1 = .ok (some frame)) ∨
        (l.plane.barrier.collect ticket).1 = .error (.closed ticket.target)) ∧
    (∃ before after l₁ l₂, log = before ++ .drained :: after ∧
      Trace Turns (Loop.start options machine) before l₁ ∧ Turns l₁ .drained l₂ ∧
      Trace Turns l₂ after l) ∧
    ∀ before after l₁ l₂, log = before ++ .drained :: after →
      Trace Turns (Loop.start options machine) before l₁ → Turns l₁ .drained l₂ →
      Trace Turns l₂ after l →
      (∀ earlier turn later a b job, before = earlier ++ turn :: later →
        Trace Turns (Loop.start options machine) earlier a → Turns a turn b →
        Trace Turns b later l₁ → b.jobs = Desk.withJob a.jobs job true →
        Unattended a.jobs.issued (later ++ .drained :: after) →
        ∃ w ∈ done later, w.job = job ∧
          (l.jobs.collect a.jobs.issued).1 = some w.answer) ∧
      l.jobs.pending.map (·.id) = List.range' l₁.jobs.issued (l.jobs.issued - l₁.jobs.issued) ∧
      ∀ id, l₁.jobs.issued ≤ id → id < l.jobs.issued → (l.jobs.collect id).1 = none := by
  have hnumbered : ∀ {log : List (Turn σ)} {l : Loop σ},
      Trace Turns (Loop.start options machine) log l → l.jobs.Numbered := fun hrun =>
    hrun.keeps (·.jobs.Numbered) (fun hl hturn => hturn.numbered hl) ⟨nofun, nofun⟩
  have hshut : l.plane.barrier.Shut :=
    h.keeps (fun l => l.phase = .returned → l.plane.barrier.Shut)
      (fun hl hturn => hturn.shut_of_returned hl) nofun hreturned
  refine ⟨⟨hshut.waiters, hshut.register, hshut.collect_cases⟩,
    exists_emptied h rfl (hreturned ▸ rfl), ?_⟩
  intro before after l₁ l₂ _ hbefore hdrained hafter
  obtain ⟨hnone, hsame, hlate⟩ :
      l₁.jobs.pending = [] ∧ l₂.jobs = l₁.jobs ∧ l₂.phase.isLate = true := by
    cases hdrained with
    | drained hnone => exact ⟨hnone, rfl, rfl⟩
  obtain ⟨hstranded, hdone⟩ : Stranded l₁.jobs.issued l.jobs ∧ done after = [] := by
    refine Stranded.trace ?_ hlate hafter
    rw [hsame]
    exact stranded_nil (hnumbered hbefore) hnone
  refine ⟨?_, hstranded.pending, fun id => hstranded.collect_eq_none⟩
  rintro earlier turn later a b job - ha hturn hb hjob hspared
  have hgiven : Owed a.jobs.issued job [] b.jobs := by
    rw [Owed, hjob]
    exact JobQueue.kept_withJob (hnumbered ha) job _
  have hwhole : done (later ++ .drained :: after) = done later := by
    rw [done_append, done_cons_of_none rfl, hdone, List.append_nil]
  have howed := owed_of_trace (hb.append (.next hdrained hafter)) hspared hgiven
  rw [hwhole] at howed
  have hearly : a.jobs.issued < l₁.jobs.issued :=
    (owed_of_trace hb (fun e he => hspared e (List.mem_append_left _ he)) hgiven).lt
  rcases howed.collect_cases with ⟨_, hfound, w, hw, hwjob, rfl⟩ | ⟨-, hqueued⟩
  · exact ⟨w, hw, hwjob, hfound⟩
  · rw [hstranded.pending, List.mem_range'_1] at hqueued
    omega

/-- A job that pauses the machine is handed in before the flag is raised, and a request for the
status comes when the queue has been found empty: the job is answered, the request is not. -/
theorem answered_iff_in_time_status :
    ∃ (log : List (Turn Headless)) (l : Loop Headless),
      Trace Turns (Loop.start {} (Headless.make "states" 1)) log l ∧ l.phase = .returned ∧
      (l.jobs.collect 0).1 = some (.ok .done) ∧ (l.jobs.collect 1).1 = none ∧
      l.plane.barrier.waiters = [] := by
  let pause : Job Headless := .order (.setRunState .paused)
  let p : ControlPlane Headless := { machine := .make "states" 1 }
  let p₁ : ControlPlane Headless := { p with jobs := Desk.withJob p.jobs pause true }
  let w : Work Headless :=
    ⟨pause, {}, p.machine, .ok .done, {}, { p.machine with runState := .paused }, .done _⟩
  let p₂ : ControlPlane Headless := { p₁ with
    jobs := Desk.withoutFirst p₁.jobs ⟨0, pause, true⟩ [] (.ok .done)
    machine := w.after }
  let q : ControlPlane Headless :=
    { p₂ with jobs := Desk.withJob p₂.jobs (.order .reportRunState) true }
  have hsubmit : Turns (Loop.start {} (Headless.make "states" 1)) (.request .submit)
      ⟨.between, false, ⟨.serving, p₁⟩⟩ := .request (.submit rfl) rfl
  have hserved : Trace Turns ⟨.between, false, ⟨.serving, p₁⟩⟩
      [.flag true, .leave, .simulate (.work w)] ⟨.draining, true, ⟨.serving, p₂⟩⟩ :=
    .next .flag (.next .leave (.one (.drain (.work rfl rfl rfl rfl))))
  have hdrained : Turns ⟨.draining, true, ⟨.serving, p₂⟩⟩ .drained
      ⟨.drained, true, ⟨.serving, p₂⟩⟩ := .drained rfl
  have hlate : Trace Turns ⟨.drained, true, ⟨.serving, p₂⟩⟩ [.request .submit, .close]
      ⟨.returned, true, Loop.closed ⟨.serving, q⟩⟩ :=
    .next (.request (.submit rfl) rfl) (.one .close)
  have hbefore := Trace.next hsubmit hserved
  have htrace := hbefore.append (.next hdrained hlate)
  obtain ⟨⟨hwaiters, -⟩, -, hjobs⟩ := answered_iff_in_time htrace rfl
  obtain ⟨hintime, -, hstranded⟩ := hjobs _ _ _ _ rfl hbefore hdrained hlate
  have hunattended : Unattended 0
      ([.flag true, .leave, .simulate (.work w)] ++ .drained :: [.request .submit, .close]) := by
    intro e he
    obtain rfl : e = .submit := by simpa using he
    exact nofun
  obtain ⟨v, hv, -, hfound⟩ :=
    hintime [] _ _ _ _ pause rfl (.stop _) hsubmit hserved rfl hunattended
  obtain rfl := List.mem_singleton.mp hv
  exact ⟨_, _, htrace, rfl, hfound, hstranded 1 le_rfl (by decide), hwaiters⟩

/-- It is not so that nobody is left to wait once the simulation has returned: a request for the
status that comes between the last job and the end waits for an answer that never comes. -/
theorem not_forall_answered :
    ¬ ∀ (log : List (Turn Headless)) (l : Loop Headless),
      Trace Turns (Loop.start {} (Headless.make "states" 1)) log l → l.phase = .returned →
      (∀ j ∈ l.jobs.pending, j.awaited = true → (l.jobs.collect j.id).1 ≠ none) ∧
        l.plane.barrier.waiters = [] := by
  intro hall
  let p : ControlPlane Headless := { machine := .make "states" 1 }
  let status : QueuedJob (Job Headless) := ⟨0, .order .reportRunState, true⟩
  let q : ControlPlane Headless := { p with jobs := Desk.withJob p.jobs status.job true }
  have hcall : p.call "status" .null = (.waiting (.onJob .status 0), q) := rfl
  have hstatus : Step ⟨.serving, p⟩ (.call "status" .null (.waiting (.onJob .status 0)))
      ⟨.serving, q⟩ := by
    have hstep : Step ⟨.serving, p⟩ (.call "status" .null (p.call "status" .null).1)
        ⟨.serving, (p.call "status" .null).2⟩ := .call
    rwa [hcall] at hstep
  have htrace : Trace Turns (Loop.start {} (Headless.make "states" 1))
      [.flag true, .leave, .drained, .request _, .close]
      ⟨.returned, true, Loop.closed ⟨.serving, q⟩⟩ :=
    .next .flag (.next .leave (.next (.drained rfl) (.next (.request hstatus rfl) (.one .close))))
  exact (hall _ _ htrace rfl).1 status List.mem_cons_self rfl rfl

end ConsoleLink
