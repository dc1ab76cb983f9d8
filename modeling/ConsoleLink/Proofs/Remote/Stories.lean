import ConsoleLink.Proofs.Remote.Errands
import ConsoleLink.Proofs.Trace

/-! # What the jobs of a schedule did

The events of a schedule do not say what a job found and what it left. A story is a schedule that
says it of every job. Every schedule can be told as a story, and a step that nobody disturbs begins
with the jobs that are queued.
-/

namespace ConsoleLink

open ControlPlane Schedule

/-- A job that was done, with what it found, what it was answered and what it left. -/
structure Work (σ : Type) [Machine σ] where
  job : Job σ
  watches : Registry
  before : σ
  answer : Except JobError Reply
  watchesAfter : Registry
  after : σ
  performed : (perform job (watches, before)).Yields (answer, watchesAfter, after)

namespace Schedule

def Event.isJob : Event → Bool
  | .job _ _ => true
  | _ => false

end Schedule

variable {σ : Type} [Machine σ]

/-- What a story tells next: a job and what it did, or an event that is no job. -/
inductive Entry (σ : Type) [Machine σ] where
  | work (w : Work σ)
  | event (e : Event)

namespace Entry

/-- The event that an entry tells. -/
def toEvent : Entry σ → Event
  | .work w => .job w.job.names (Machine.memory w.before)
  | .event e => e

def work? : Entry σ → Option (Work σ)
  | .work w => some w
  | .event _ => none

end Entry

/-- The events of a story. -/
def events (story : List (Entry σ)) : List Event := story.map Entry.toEvent

/-- The jobs that a story tells of, in the order in which they were done. -/
def works (story : List (Entry σ)) : List (Work σ) := story.filterMap Entry.work?

theorem events_append (story later : List (Entry σ)) :
    events (story ++ later) = events story ++ events later := List.map_append

theorem works_append (story later : List (Entry σ)) :
    works (story ++ later) = works story ++ works later := List.filterMap_append

/-- An entry takes a moment to the next. -/
inductive Tells : Moment σ → Entry σ → Moment σ → Prop where
  | work {p : ControlPlane σ} {first : QueuedJob (Job σ)} {rest : List (QueuedJob (Job σ))}
      {w : Work σ} (hpending : p.jobs.pending = first :: rest) (hjob : first.job = w.job)
      (hwatches : p.watches = w.watches) (hmachine : p.machine = w.before) :
      Tells ⟨.serving, p⟩ (.work w)
        ⟨.serving, { p with
          jobs := Desk.withoutFirst p.jobs first rest w.answer
          watches := w.watchesAfter
          machine := w.after }⟩
  | event {m m' : Moment σ} {e : Event} (h : Step m e m') (he : e.isJob = false) :
      Tells m (.event e) m'

/-- The entries of a story follow one another. -/
abbrev Story : Moment σ → List (Entry σ) → Moment σ → Prop := Trace Tells

namespace ControlPlane

theorem yields_runNext {q : JobQueue (Job σ) Reply} {first : QueuedJob (Job σ)}
    {rest : List (QueuedJob (Job σ))} {s s' : Registry × σ} {answer : Except JobError Reply}
    (hpending : q.pending = first :: rest) (h : (perform first.job s).Yields (answer, s')) :
    (q.runNext perform s).Yields (Desk.withoutFirst q first rest answer, s') := by
  unfold JobQueue.runNext
  rw [hpending]
  exact h.bind (.done _)

end ControlPlane

variable {m m' : Moment σ} {e : Event} {entry : Entry σ} {story : List (Entry σ)}
  {log : List Event}

theorem Tells.step (h : Tells m entry m') : Step m entry.toEvent m' := by
  cases h with
  | @work p first rest w hpending hjob hwatches hmachine =>
    have hperform : (perform first.job (p.watches, p.machine)).Yields
        (w.answer, w.watchesAfter, w.after) := by
      rw [hjob, hwatches, hmachine]
      exact w.performed
    rw [Entry.toEvent, ← hjob, ← hmachine]
    exact .job hpending (yields_runNext hpending hperform)
  | event h _ => exact h

/-- Whatever happens next can be told. -/
theorem exists_tells (h : Step m e m') :
    ∃ entry : Entry σ, entry.toEvent = e ∧ Tells m entry m' := by
  cases h with
  | @job p first rest jobs watches machine hpending h =>
    obtain ⟨answer, hperform, rfl⟩ := runNext_yields hpending h
    exact ⟨.work ⟨first.job, p.watches, p.machine, answer, watches, machine, hperform⟩, rfl,
      .work hpending rfl rfl rfl⟩
  | _ => exact ⟨.event _, rfl, .event (by constructor <;> assumption) rfl⟩

/-- A story is a schedule. -/
theorem Story.run (h : Story m story m') : Run m (events story) m' := by
  induction h with
  | stop m => exact .stop m
  | next h _ ih => exact .next h.step ih

/-- Every schedule can be told as a story. -/
theorem exists_story (h : Run m log m') :
    ∃ story : List (Entry σ), events story = log ∧ Story m story m' := by
  induction h with
  | stop m => exact ⟨[], rfl, .stop m⟩
  | next hfirst _ ih =>
    obtain ⟨entry, rfl, htells⟩ := exists_tells hfirst
    obtain ⟨story, rfl, hstory⟩ := ih
    exact ⟨entry :: story, rfl, .next htells hstory⟩

/-- The jobs that are queued are done one after another, and none of them is left. -/
theorem exists_works {q q' : JobQueue (Job σ) Reply} {s s' : Registry × σ} (p : ControlPlane σ)
    (h : (q.runMany perform q.pending.length s).Yields (q', s')) :
    q'.pending = [] ∧ ∃ ws : List (Work σ), ws.map (·.job) = q.pending.map (·.job) ∧
      Story ⟨.serving, { p with jobs := q, watches := s.1, machine := s.2 }⟩ (ws.map .work)
        ⟨.serving, { p with jobs := q', watches := s'.1, machine := s'.2 }⟩ := by
  generalize hlength : q.pending.length = n at h
  induction n generalizing q s with
  | zero =>
    cases Access.yields_pure_iff.mp h
    have hnone := List.eq_nil_of_length_eq_zero hlength
    rw [hnone]
    exact ⟨rfl, [], rfl, .stop _⟩
  | succ n ih =>
    obtain ⟨first, rest, hpending⟩ := List.exists_cons_of_length_eq_add_one hlength
    obtain ⟨⟨next, between⟩, hone, hlater⟩ := Access.yields_bind_iff.mp h
    obtain ⟨answer, hperform, rfl⟩ := runNext_yields hpending hone
    have hrest : rest.length = n := by
      rw [hpending] at hlength
      exact Nat.succ.inj hlength
    obtain ⟨hempty, ws, hjobs, hstory⟩ := ih hrest hlater
    let w : Work σ := ⟨first.job, s.1, s.2, answer, between.1, between.2, hperform⟩
    refine ⟨hempty, w :: ws, ?_, .next (.work hpending rfl rfl rfl) hstory⟩
    rw [hpending, List.map_cons, List.map_cons, hjobs]

/-- Doing the jobs that are queued makes a story of just these jobs. -/
theorem exists_works_of_runJobs {p q : ControlPlane σ} (h : p.runJobs.Yields q) :
    q.jobs.pending = [] ∧ ∃ ws : List (Work σ), ws.map (·.job) = p.jobs.pending.map (·.job) ∧
      Story ⟨.serving, p⟩ (ws.map .work) ⟨.serving, q⟩ := by
  obtain ⟨⟨jobs, watches, machine⟩, hmany, hq⟩ := Access.yields_bind_iff.mp h
  cases Access.yields_pure_iff.mp hq
  exact exists_works p hmany

/-! ## The machine -/

namespace ControlPlane

omit [Machine σ] in
theorem handIn_machine (p : ControlPlane σ) (command : Command) (job : Job σ) :
    (p.handIn command job).2.machine = p.machine := by
  unfold handIn
  split <;> rfl

omit [Machine σ] in
theorem waitFor_machine (p : ControlPlane σ) (frames : Nat) (next : Ticket → Pending) :
    (p.waitFor frames next).2.machine = p.machine := by
  unfold waitFor register
  cases p.barrier.register frames <;> rfl

omit [Machine σ] in
theorem start_machine (p : ControlPlane σ) (command : Command) :
    (p.start command).2.machine = p.machine := by
  cases command with
  | latch | enable | defineWatches | readWatches => rfl
  | hold port overlay =>
    unfold start
    dsimp only
    cases p.options.mode with
    | realTime => rfl
    | turnBased => exact p.waitFor_machine _ _
  | waitFrames frames => exact p.waitFor_machine _ _
  | boot | save | load | describe | setRunState | screenshot | status =>
    exact p.handIn_machine _ _

omit [Machine σ] in
theorem call_machine (p : ControlPlane σ) (method : String) (params : Json) :
    (p.call method params).2.machine = p.machine := by
  unfold call
  cases Command.ofCall method params with
  | ok command => exact p.start_machine command
  | error e => rfl

omit [Machine σ] in
theorem resume_machine {p q : ControlPlane σ} {pending : Pending} {progress : Progress}
    (h : (p.resume pending).Yields (progress, q)) : q.machine = p.machine := by
  rcases resume_cases h with rfl | ⟨_, _, rfl⟩ | ⟨command, job, rfl⟩ | ⟨_, rfl⟩ |
    ⟨_, _, _, -, -, rfl⟩
  · rfl
  · rfl
  · exact p.handIn_machine command job
  · rfl
  · rfl

omit [Machine σ] in
theorem giveUp_machine (p : ControlPlane σ) (pending : Pending) :
    (p.giveUp pending).2.machine = p.machine := by
  rcases p.giveUp_cases pending with h | ⟨_, h⟩ | ⟨_, _, _, -, -, h | h⟩ <;> rw [h]

end ControlPlane

/-- An event that is no job leaves the machine as it is, or has it run a frame. -/
theorem Schedule.Step.machine (h : Step m e m') (he : e.isJob = false) :
    m'.plane.machine = m.plane.machine ∨
      e = .emulate ∧ ∃ pads, m.stage = .sampling pads [] ∧
        Machine.runFrame pads m.plane.machine = some m'.plane.machine := by
  cases h with
  | job => cases he
  | emulate h => exact .inr ⟨rfl, _, rfl, (emulate_eq_some h).1⟩
  | call => exact .inl (call_machine _ _ _)
  | resume h => exact .inl (resume_machine h)
  | giveUp => exact .inl (giveUp_machine _ _)
  | sample | idle | begin | refresh | count | define | fetch | input | register | collect | close
  | submit | take | abandon | drop => exact .inl rfl

end ConsoleLink
