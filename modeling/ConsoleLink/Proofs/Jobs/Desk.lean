import ConsoleLink.Jobs
import ConsoleLink.Proofs.Pairs
import Mathlib.Data.List.Nodup

/-! # A job queue and those who wait for its answers

Jobs are handed in from many sides, with or without somebody who waits for the answer. The
simulation runs them one at a time and may go away with the queue at any time. Whoever waits looks
for the answer as often as it takes, or for the last time when the wait has lasted too long.

A `Desk` keeps, beside the queue and the machine, a record of what happened: which jobs were run,
and what each submitter got.
-/

namespace ConsoleLink

/-- How a job ends: with an answer, or in a panic, which leaves the machine as it is then. -/
inductive JobEnd (Reply : Type) where
  | returned (answer : Except JobError Reply)
  | panicked (payload : Option String)

/-- What is answered for a job; a panic is caught. -/
def JobEnd.answer {Reply : Type} : JobEnd Reply → Except JobError Reply
  | .returned answer => answer
  | .panicked payload => .error (.ofPanic payload)

/-- Something that happens to a job queue. -/
inductive DeskOp (Job : Type) where
  /-- Hand in a job; `awaited` if its submitter waits for the answer. -/
  | submit (job : Job) (awaited : Bool)
  /-- Take the first job out of the queue and run it. -/
  | run
  /-- The submitter of a job looks for the answer; `last` if the time to wait is over. -/
  | look (id : Nat) (last : Bool)
  /-- The simulation goes away. -/
  | drop

/-- A job queue, the machine that its jobs run on, and a record. -/
structure Desk (Job Reply σ : Type) where
  machine : σ
  queue : JobQueue Job Reply := {}
  /-- The jobs whose submitters still wait. -/
  waiting : List Nat := []
  /-- What the submitters got who waited, with the number of their job. -/
  served : List (Nat × Except JobError Reply) := []
  /-- What the submitters got whose job was not taken. -/
  refused : List JobError := []
  /-- The jobs that were run. -/
  executed : List Job := []

namespace JobQueue

variable {Job Reply : Type} {q : JobQueue Job Reply} {id : Nat}

theorem collect_snd (q : JobQueue Job Reply) (id : Nat) :
    (q.collect id).2.pending = q.pending ∧ (q.collect id).2.issued = q.issued ∧
      (q.collect id).2.dropped = q.dropped ∧
      ((q.collect id).2.answers = q.answers ∨
        (q.collect id).2.answers = q.answers.filter fun a => a.1 ≠ id) := by
  unfold collect
  split
  · exact ⟨rfl, rfl, rfl, .inr rfl⟩
  · split <;> exact ⟨rfl, rfl, rfl, .inl rfl⟩

theorem collect_of_fst_none (h : (q.collect id).1 = none) : q.collect id = (none, q) := by
  unfold collect at h ⊢
  split at h
  · cases h
  · split_ifs at h ⊢
    rfl

theorem collectOrTimeout_of_none (h : (q.collect id).1 = none) :
    q.collectOrTimeout id = (.error .timeout, q.abandon id) := by
  rw [collectOrTimeout, collect_of_fst_none h]

theorem collectOrTimeout_of_some {answer : Except JobError Reply}
    (h : (q.collect id).1 = some answer) :
    q.collectOrTimeout id = (answer, (q.collect id).2) := by
  rcases hcollect : q.collect id with ⟨found, rest⟩
  rw [hcollect] at h
  cases h
  rw [collectOrTimeout, hcollect]

theorem collect_of_lookup {answer : Except JobError Reply}
    (h : q.answers.lookup id = some answer) : (q.collect id).1 = some answer := by
  unfold collect
  rw [h]

theorem collect_of_queued (hanswers : q.answers.lookup id = none)
    (h : id ∈ q.pending.map (·.id)) : q.collect id = (none, q) := by
  obtain ⟨j, hj, rfl⟩ := List.mem_map.mp h
  have hany : q.pending.any (fun k => k.id == j.id) = true :=
    List.any_eq_true.mpr ⟨j, hj, beq_self_eq_true j.id⟩
  unfold collect
  rw [hanswers]
  dsimp only
  rw [if_pos hany]

theorem collect_of_lost (hanswers : q.answers.lookup id = none) (h : q.pending = []) :
    (q.collect id).1 = some (.error .unavailable) := by
  unfold collect
  rw [hanswers, h]
  rfl

/-- Whoever takes an answer leaves those of the other jobs. -/
theorem lookup_collect {other : Nat} (h : other ≠ id) :
    (q.collect id).2.answers.lookup other = q.answers.lookup other := by
  rcases (q.collect_snd id).2.2.2 with hsame | hfilter
  · rw [hsame]
  · rw [hfilter, lookup_filter_ne _ h]

theorem mem_of_mem_collect {a : Nat × Except JobError Reply}
    (h : a ∈ (q.collect id).2.answers) : a ∈ q.answers := by
  rcases (q.collect_snd id).2.2.2 with hsame | hfilter
  · rwa [hsame] at h
  · rw [hfilter] at h
    exact List.mem_of_mem_filter h

theorem map_pending_abandon {β : Type} (f : QueuedJob Job → β)
    (hf : ∀ j, f { j with awaited := false } = f j) :
    (q.abandon id).pending.map f = q.pending.map f := by
  unfold abandon
  rw [List.map_map]
  refine List.map_congr_left fun j _ => ?_
  dsimp only [Function.comp_apply]
  split_ifs
  · exact hf j
  · rfl

end JobQueue

namespace Desk

variable {Job Reply σ : Type} (work : Job → σ → JobEnd Reply × σ)

/-- Runs a job as the simulation does. -/
def attend (job : Job) (s : σ) : Id (Except JobError Reply × σ) :=
  pure ((work job s).1.answer, (work job s).2)

/-- A submitter gets an answer and waits no longer. -/
def serve (d : Desk Job Reply σ) (id : Nat) (result : Except JobError Reply × JobQueue Job Reply) :
    Desk Job Reply σ :=
  { d with
    queue := result.2
    waiting := d.waiting.filter (· ≠ id)
    served := d.served ++ [(id, result.1)] }

/-- A desk at which nothing has happened. -/
def opened (s : σ) : Desk Job Reply σ := { machine := s }

/-- Carries out an operation. Whoever does not wait for a job has nothing to look for. -/
def step (d : Desk Job Reply σ) : DeskOp Job → Desk Job Reply σ
  | .submit job awaited =>
    match d.queue.submit job awaited with
    | .ok (id, queue) =>
      { d with queue := queue, waiting := if awaited then d.waiting ++ [id] else d.waiting }
    | .error e => { d with refused := d.refused ++ [e] }
  | .run =>
    let result := (d.queue.runNext (attend work) d.machine).run
    { d with
      queue := result.1
      machine := result.2
      executed := d.executed ++ (d.queue.pending.head?.map (·.job)).toList }
  | .look id last =>
    if id ∈ d.waiting ∧ (last ∨ (d.queue.collect id).1.isSome) then
      d.serve id (d.queue.collectOrTimeout id)
    else d
  | .drop => { d with queue := d.queue.drop }

/-- Carries out some operations in turn. -/
def run (d : Desk Job Reply σ) (ops : List (DeskOp Job)) : Desk Job Reply σ :=
  ops.foldl (step work) d

theorem run_append (d : Desk Job Reply σ) (ops later : List (DeskOp Job)) :
    d.run work (ops ++ later) = (d.run work ops).run work later := List.foldl_append

/-! ## What a step can do -/

/-- The queue after a job that is taken. -/
def withJob (q : JobQueue Job Reply) (job : Job) (awaited : Bool) : JobQueue Job Reply :=
  { q with pending := q.pending ++ [⟨q.issued, job, awaited⟩], issued := q.issued + 1 }

/-- The queue after its first job, which was answered. -/
def withoutFirst (q : JobQueue Job Reply) (first : QueuedJob Job) (rest : List (QueuedJob Job))
    (answer : Except JobError Reply) : JobQueue Job Reply :=
  { q with
    pending := rest
    answers := if first.awaited then q.answers ++ [(first.id, answer)] else q.answers }

theorem lookup_withoutFirst (q : JobQueue Job Reply) (first : QueuedJob Job)
    (rest : List (QueuedJob Job)) (answer : Except JobError Reply) (id : Nat) :
    (withoutFirst q first rest answer).answers.lookup id =
      (q.answers.lookup id).or
        (if first.awaited = true ∧ id = first.id then some answer else none) := by
  unfold withoutFirst
  by_cases hawaited : first.awaited = true
  · by_cases hid : id = first.id
    · simp [hawaited, hid, List.lookup_append]
    · have hother : (id == first.id) = false := by simpa using hid
      simp [hawaited, hid, hother, List.lookup_append, List.lookup_cons]
  · simp [hawaited]

theorem mem_withoutFirst {q : JobQueue Job Reply} {first : QueuedJob Job}
    {rest : List (QueuedJob Job)} {answer : Except JobError Reply}
    {a : Nat × Except JobError Reply} (h : a ∈ (withoutFirst q first rest answer).answers) :
    a ∈ q.answers ∨ a = (first.id, answer) := by
  unfold withoutFirst at h
  dsimp only at h
  split_ifs at h
  · simpa using h
  · exact .inl h

/-- What an operation makes of a desk. -/
inductive Effect (d : Desk Job Reply σ) : DeskOp Job → Desk Job Reply σ → Prop where
  | taken {job awaited} (h : d.queue.dropped = false) :
      Effect d (.submit job awaited)
        { d with
          queue := withJob d.queue job awaited
          waiting := if awaited then d.waiting ++ [d.queue.issued] else d.waiting }
  | refused {job awaited} (h : d.queue.dropped = true) :
      Effect d (.submit job awaited) { d with refused := d.refused ++ [.unavailable] }
  | ran {first rest} (h : d.queue.pending = first :: rest) :
      Effect d .run
        { d with
          queue := withoutFirst d.queue first rest (work first.job d.machine).1.answer
          machine := (work first.job d.machine).2
          executed := d.executed ++ [first.job] }
  | idle (h : d.queue.pending = []) : Effect d .run d
  | unserved {id last} (h : id ∈ d.waiting → last = false ∧ (d.queue.collect id).1 = none) :
      Effect d (.look id last) d
  | served {id last answer} (hid : id ∈ d.waiting) (h : (d.queue.collect id).1 = some answer) :
      Effect d (.look id last) (d.serve id (answer, (d.queue.collect id).2))
  | expired {id} (hid : id ∈ d.waiting) (h : (d.queue.collect id).1 = none) :
      Effect d (.look id true) (d.serve id (.error .timeout, d.queue.abandon id))
  | dropped : Effect d .drop { d with queue := d.queue.drop }

theorem step_look_of_some {d : Desk Job Reply σ} {id : Nat} {answer : Except JobError Reply}
    (hid : id ∈ d.waiting) (h : (d.queue.collect id).1 = some answer) (last : Bool) :
    d.step work (.look id last) = d.serve id (answer, (d.queue.collect id).2) := by
  rw [← JobQueue.collectOrTimeout_of_some h]
  exact if_pos ⟨hid, .inr (by rw [h]; rfl)⟩

theorem step_look_of_none {d : Desk Job Reply σ} {id : Nat} (hid : id ∈ d.waiting)
    (h : (d.queue.collect id).1 = none) :
    d.step work (.look id false) = d ∧
      d.step work (.look id true) = d.serve id (.error .timeout, d.queue.abandon id) := by
  rw [← JobQueue.collectOrTimeout_of_none h]
  refine ⟨if_neg ?_, if_pos ⟨hid, .inl rfl⟩⟩
  simp [h]

theorem step_effect (d : Desk Job Reply σ) (op : DeskOp Job) :
    Effect work d op (d.step work op) := by
  cases op with
  | submit job awaited =>
    cases h : d.queue.dropped with
    | false =>
      have hsubmit : d.queue.submit job awaited =
          .ok (d.queue.issued, withJob d.queue job awaited) := by
        simp [JobQueue.submit, h, withJob]
      simp only [step, hsubmit]
      exact .taken h
    | true =>
      have hsubmit : d.queue.submit job awaited = .error .unavailable := by
        simp [JobQueue.submit, h]
      simp only [step, hsubmit]
      exact .refused h
  | run =>
    cases h : d.queue.pending with
    | nil =>
      have hstep : d.step work .run = d := by simp [step, JobQueue.runNext, h]
      rw [hstep]
      exact .idle h
    | cons first rest =>
      have hstep : d.step work .run =
          { d with
            queue := withoutFirst d.queue first rest (work first.job d.machine).1.answer
            machine := (work first.job d.machine).2
            executed := d.executed ++ [first.job] } := by
        simp [step, JobQueue.runNext, h, attend, withoutFirst]
      rw [hstep]
      exact .ran h
  | look id last =>
    by_cases hid : id ∈ d.waiting
    · cases h : (d.queue.collect id).1 with
      | some answer =>
        rw [step_look_of_some work hid h]
        exact .served hid h
      | none =>
        obtain ⟨hstay, hexpire⟩ := step_look_of_none work hid h
        cases last with
        | false =>
          rw [hstay]
          exact .unserved fun _ => ⟨rfl, h⟩
        | true =>
          rw [hexpire]
          exact .expired hid h
    · have hstep : d.step work (.look id last) = d := if_neg fun h => hid h.1
      rw [hstep]
      exact .unserved fun h => absurd h hid
  | drop => exact .dropped

/-! ## The jobs that were run -/

/-- The machine after some jobs. -/
def machineAfter (s : σ) (jobs : List Job) : σ := jobs.foldl (fun s job => (work job s).2) s

/-- What is answered for the job of a number, run after those before it. -/
def outcome? (s : σ) (jobs : List Job) (id : Nat) : Option (Except JobError Reply) :=
  jobs[id]?.map fun job => (work job (machineAfter work s (jobs.take id))).1.answer

@[simp] theorem machineAfter_concat (s : σ) (jobs : List Job) (job : Job) :
    machineAfter work s (jobs ++ [job]) = (work job (machineAfter work s jobs)).2 :=
  List.foldl_concat ..

theorem outcome?_eq_none_iff {s : σ} {jobs : List Job} {id : Nat} :
    outcome? work s jobs id = none ↔ jobs.length ≤ id := by
  simp [outcome?]

theorem outcome?_append_of_lt {s : σ} {jobs : List Job} {id : Nat} (h : id < jobs.length)
    (later : List Job) : outcome? work s (jobs ++ later) id = outcome? work s jobs id := by
  rw [outcome?, outcome?, List.getElem?_append_left h, List.take_append_of_le_length h.le]

theorem outcome?_concat (s : σ) (jobs : List Job) (job : Job) (id : Nat) :
    outcome? work s (jobs ++ [job]) id =
      if id = jobs.length then some (work job (machineAfter work s jobs)).1.answer
      else outcome? work s jobs id := by
  rcases Nat.lt_trichotomy id jobs.length with h | rfl | h
  · rw [outcome?_append_of_lt work h, if_neg h.ne]
  · simp [outcome?]
  · rw [if_neg h.ne', (outcome?_eq_none_iff work).mpr h.le, outcome?_eq_none_iff]
    simp
    omega

/-! ## The state of a desk -/

variable (s : σ) {d d' : Desk Job Reply σ} {op : DeskOp Job}

/-- The record of a desk agrees with its queue and its machine. The jobs are numbered in the order
in which they were taken, and the answers of those who wait are those of their own jobs. -/
structure Consistent (d : Desk Job Reply σ) : Prop where
  machine : d.machine = machineAfter work s d.executed
  numbered : d.queue.pending.map (·.id) = List.range' d.executed.length d.queue.pending.length
  issued : d.executed.length + d.queue.pending.length ≤ d.queue.issued
  kept : d.queue.dropped = false → d.executed.length + d.queue.pending.length = d.queue.issued
  lost : d.queue.dropped = true → d.queue.pending = []
  awaited : ∀ j ∈ d.queue.pending, j.awaited = true ↔ j.id ∈ d.waiting
  answers : ∀ id ∈ d.waiting, d.queue.answers.lookup id = outcome? work s d.executed id
  old : ∀ a ∈ d.queue.answers, a.1 < d.executed.length
  known : ∀ id ∈ d.waiting, id < d.queue.issued

theorem consistent_opened : Consistent work s (opened s) := by
  constructor <;> simp [opened, machineAfter]

variable {work s}

theorem Consistent.queued (hd : Consistent work s d) {j : QueuedJob Job}
    (hj : j ∈ d.queue.pending) : d.executed.length ≤ j.id ∧ j.id < d.queue.issued := by
  have hmem : j.id ∈ d.queue.pending.map (·.id) := List.mem_map_of_mem hj
  rw [hd.numbered, List.mem_range'_1] at hmem
  exact ⟨hmem.1, hmem.2.trans_le hd.issued⟩

theorem Consistent.first (hd : Consistent work s d) {first : QueuedJob Job}
    {rest : List (QueuedJob Job)} (h : d.queue.pending = first :: rest) :
    first.id = d.executed.length ∧
      rest.map (·.id) = List.range' (d.executed.length + 1) rest.length := by
  have hnumbered := hd.numbered
  rw [h, List.map_cons, List.length_cons, List.range'_succ] at hnumbered
  exact List.cons.inj hnumbered

theorem Consistent.taken (hd : Consistent work s d) (hopen : d.queue.dropped = false) (job : Job)
    (awaited : Bool) : Consistent work s
      { d with
        queue := withJob d.queue job awaited
        waiting := if awaited then d.waiting ++ [d.queue.issued] else d.waiting } := by
  have hkept := hd.kept hopen
  have hwaiting : ∀ id, (id ∈ if awaited then d.waiting ++ [d.queue.issued] else d.waiting) ↔
      id ∈ d.waiting ∨ awaited = true ∧ id = d.queue.issued := by
    intro id
    cases awaited <;> simp
  constructor
  case machine | old => first | exact hd.machine | exact hd.old
  case numbered => simp [withJob, hd.numbered, List.range'_concat, hkept]
  case issued =>
    simp only [withJob, List.length_append, List.length_singleton]
    omega
  case kept =>
    intro _
    simp only [withJob, List.length_append, List.length_singleton]
    omega
  case lost =>
    intro hgone
    exact absurd (hopen.symm.trans hgone) Bool.false_ne_true
  case awaited =>
    intro j hj
    rw [hwaiting]
    rcases List.mem_append.mp hj with hj | hj
    · rw [hd.awaited j hj]
      simp [(hd.queued hj).2.ne]
    · cases List.mem_singleton.mp hj
      simpa using fun hmem => absurd (hd.known _ hmem) (lt_irrefl _)
  case answers =>
    intro id hid
    rcases (hwaiting id).mp hid with hid | ⟨-, rfl⟩
    · exact hd.answers id hid
    · have hunrun : d.executed.length ≤ d.queue.issued :=
        Nat.le_trans (Nat.le_add_right ..) hd.issued
      rw [(outcome?_eq_none_iff work).mpr hunrun]
      exact lookup_eq_none_of_forall fun a ha => ((hd.old a ha).trans_le hunrun).ne
  case known =>
    intro id hid
    rcases (hwaiting id).mp hid with hid | ⟨-, rfl⟩
    · exact (hd.known id hid).trans (Nat.lt_succ_self _)
    · exact Nat.lt_succ_self _

theorem Consistent.ran (hd : Consistent work s d) {first : QueuedJob Job}
    {rest : List (QueuedJob Job)} (h : d.queue.pending = first :: rest) : Consistent work s
      { d with
        queue := withoutFirst d.queue first rest (work first.job d.machine).1.answer
        machine := (work first.job d.machine).2
        executed := d.executed ++ [first.job] } := by
  obtain ⟨hfirst, hrest⟩ := hd.first h
  have hlength : d.queue.pending.length = rest.length + 1 := by rw [h, List.length_cons]
  constructor
  case machine => rw [machineAfter_concat, ← hd.machine]
  case numbered => simpa [withoutFirst] using hrest
  case issued =>
    have hissued := hd.issued
    simp only [withoutFirst, List.length_append, List.length_singleton]
    omega
  case kept =>
    intro hopen
    have hkept := hd.kept hopen
    simp only [withoutFirst, List.length_append, List.length_singleton]
    omega
  case lost =>
    intro hgone
    rw [hd.lost hgone] at h
    cases h
  case awaited =>
    intro j hj
    exact hd.awaited j (h ▸ List.mem_cons_of_mem first hj)
  case answers =>
    intro id hid
    have hanswers := hd.answers id hid
    have hawaited := hd.awaited first (h ▸ List.mem_cons_self)
    rw [outcome?_concat, ← hd.machine]
    rw [lookup_withoutFirst, hanswers, hfirst]
    by_cases hid' : id = d.executed.length
    · have hfirst' : first.awaited = true := hawaited.mpr (hfirst ▸ hid' ▸ hid)
      rw [if_pos ⟨hfirst', hid'⟩, if_pos hid', (outcome?_eq_none_iff work).mpr hid'.ge,
        Option.none_or]
    · rw [if_neg fun h => hid' h.2, if_neg hid', Option.or_none]
  case old =>
    intro a ha
    rw [List.length_append, List.length_singleton]
    rcases mem_withoutFirst ha with hold | rfl
    · exact (hd.old a hold).trans (Nat.lt_succ_self _)
    · exact hfirst.trans_lt (Nat.lt_succ_self _)
  case known => exact hd.known

theorem Consistent.dropped (hd : Consistent work s d) :
    Consistent work s { d with queue := d.queue.drop } where
  machine := hd.machine
  numbered := by simp [JobQueue.drop]
  issued := Nat.le_trans (Nat.le_add_right ..) hd.issued
  kept hopen := by cases hopen
  lost _ := rfl
  awaited j hj := by cases hj
  answers := hd.answers
  old := hd.old
  known := hd.known

theorem Consistent.collect_of_queued (hd : Consistent work s d) {j : QueuedJob Job}
    (hid : j.id ∈ d.waiting) (hj : j ∈ d.queue.pending) :
    (d.queue.collect j.id).1 = none := by
  have hnone : d.queue.answers.lookup j.id = none := by
    rw [hd.answers _ hid, outcome?_eq_none_iff]
    exact (hd.queued hj).1
  rw [JobQueue.collect_of_queued hnone (List.mem_map_of_mem hj)]

/-- One submitter less waits; the jobs in the queue stay where they are. -/
theorem Consistent.serve (hd : Consistent work s d) (id : Nat)
    {result : Except JobError Reply × JobQueue Job Reply}
    (hids : result.2.pending.map (·.id) = d.queue.pending.map (·.id))
    (hissued : result.2.issued = d.queue.issued) (hdropped : result.2.dropped = d.queue.dropped)
    (hawaited : ∀ j ∈ result.2.pending, j.awaited = true ↔ j.id ∈ d.waiting ∧ j.id ≠ id)
    (hanswers : ∀ other ≠ id, result.2.answers.lookup other = d.queue.answers.lookup other)
    (hold : ∀ a ∈ result.2.answers, a ∈ d.queue.answers) :
    Consistent work s (d.serve id result) := by
  have hlength : result.2.pending.length = d.queue.pending.length := by
    simpa using congrArg List.length hids
  constructor
  case machine => exact hd.machine
  case numbered => exact hids.trans (hlength ▸ hd.numbered)
  case issued => exact hlength ▸ hissued ▸ hd.issued
  case kept => exact fun hopen => hlength ▸ hissued ▸ hd.kept (hdropped ▸ hopen)
  case lost =>
    intro hgone
    refine List.eq_nil_of_length_eq_zero (hlength.trans ?_)
    rw [hd.lost (hdropped ▸ hgone), List.length_nil]
  case awaited =>
    intro j hj
    simpa [Desk.serve] using hawaited j hj
  case answers =>
    intro other hother
    obtain ⟨hmem, hne⟩ : other ∈ d.waiting ∧ other ≠ id := by simpa [Desk.serve] using hother
    exact (hanswers other hne).trans (hd.answers other hmem)
  case old => exact fun a ha => hd.old a (hold a ha)
  case known => exact fun other hother => hissued ▸ hd.known other (List.mem_of_mem_filter hother)

theorem Effect.consistent (h : Effect work d op d') (hd : Consistent work s d) :
    Consistent work s d' := by
  cases h with
  | taken hopen => exact hd.taken hopen _ _
  | refused => exact ⟨hd.machine, hd.numbered, hd.issued, hd.kept, hd.lost, hd.awaited, hd.answers,
      hd.old, hd.known⟩
  | ran h => exact hd.ran h
  | idle | unserved => exact hd
  | @served id _ answer hid h =>
    -- whoever is served waited for a job that ran, so the jobs in the queue are awaited as before
    obtain ⟨hpending, hissued, hdropped, -⟩ := d.queue.collect_snd id
    refine hd.serve id (by rw [hpending]) hissued hdropped (fun j hj => ?_)
      (fun other hother => JobQueue.lookup_collect hother)
      fun a ha => JobQueue.mem_of_mem_collect ha
    rw [hpending] at hj
    rw [hd.awaited j hj, iff_self_and]
    rintro - rfl
    rw [hd.collect_of_queued hid hj] at h
    cases h
  | @expired id hid h =>
    refine hd.serve id (JobQueue.map_pending_abandon _ fun _ => rfl) rfl rfl (fun j hj => ?_)
      (fun other hother => lookup_filter_ne _ hother) fun a ha => List.mem_of_mem_filter ha
    obtain ⟨k, hk, rfl⟩ := List.mem_map.mp hj
    have hawaited := hd.awaited k hk
    split_ifs with hid'
    · simp [hid']
    · simp [hid', hawaited]
  | dropped => exact hd.dropped

end Desk

end ConsoleLink
