import ConsoleLink.Proofs.Jobs.Keeping
import ConsoleLink.Proofs.Remote.Recency

/-! # Requests that wait for a job

A request hands in a job and waits for its answer while everything else goes on. Its job stays in
the queue until the simulation does it, and the answer is kept until the request takes it, unless
the simulation goes away or somebody else takes the answer.
-/

namespace ConsoleLink

variable {σ : Type} {p q : ControlPlane σ}

/-! ## What the actions of requests do to the queue -/

namespace ControlPlane

theorem handIn_cases (p : ControlPlane σ) (command : Command) (job : Job σ) :
    p.jobs.dropped = true ∧ p.handIn command job = (.answered (.error (.job .unavailable)), p) ∨
    p.jobs.dropped = false ∧ p.handIn command job =
      (.waiting (.onJob command p.jobs.issued),
        { p with jobs := Desk.withJob p.jobs job true }) := by
  unfold handIn JobQueue.submit
  by_cases hdropped : p.jobs.dropped = true
  · rw [if_pos hdropped]
    exact .inl ⟨hdropped, rfl⟩
  · rw [if_neg hdropped]
    exact .inr ⟨Bool.not_eq_true _ ▸ hdropped, rfl⟩

/-- A queue is left as it is, or it takes a job. -/
def Extended (q q' : JobQueue (Job σ) Reply) : Prop :=
  q' = q ∨ q.dropped = false ∧ ∃ job awaited, q' = Desk.withJob q job awaited

theorem handIn_jobs (p : ControlPlane σ) (command : Command) (job : Job σ) :
    Extended p.jobs (p.handIn command job).2.jobs := by
  rcases p.handIn_cases command job with ⟨-, h⟩ | ⟨hopen, h⟩
  · rw [h]
    exact .inl rfl
  · rw [h]
    exact .inr ⟨hopen, job, true, rfl⟩

theorem waitFor_jobs (p : ControlPlane σ) (frames : Nat) (next : Ticket → Pending) :
    (p.waitFor frames next).2.jobs = p.jobs := by
  unfold waitFor register
  cases p.barrier.register frames <;> rfl

theorem start_jobs (p : ControlPlane σ) (command : Command) :
    Extended p.jobs (p.start command).2.jobs := by
  cases command with
  | latch | enable | readWatches | defineWatches => exact .inl rfl
  | hold port overlay =>
    unfold start
    dsimp only
    cases p.options.mode with
    | realTime => exact .inl rfl
    | turnBased => exact .inl (p.waitFor_jobs _ _)
  | waitFrames frames => exact .inl (p.waitFor_jobs _ _)
  | boot | save | load | describe | setRunState | screenshot | status => exact p.handIn_jobs _ _

theorem call_jobs (p : ControlPlane σ) (method : String) (params : Json) :
    Extended p.jobs (p.call method params).2.jobs := by
  unfold call
  cases Command.ofCall method params with
  | ok command => exact p.start_jobs command
  | error e => exact .inl rfl

end ControlPlane

namespace Schedule

open ControlPlane

/-- The job whose answer someone takes, or waits for no longer. -/
def Event.attended? : Event → Option Nat
  | .resume (.onJob _ id) (.answered _) => some id
  | .giveUp (.onJob _ id) (.answered _) => some id
  | .take id => some id
  | .abandon id => some id
  | _ => none

variable [Machine σ] {m m' first : Moment σ} {e : Event} {log : List Event} {id : Nat}
  {names : List String}

/-- What an event can do to the jobs. -/
inductive Queues (m : Moment σ) (e : Event) (m' : Moment σ) : Prop where
  | extended (h : Extended m.plane.jobs m'.plane.jobs)
  | attended {id : Nat} (hid : e.attended? = some id)
      (h : m'.plane.jobs = (m.plane.jobs.collect id).2 ∨ m'.plane.jobs = m.plane.jobs.abandon id)
  | dropped (he : e = .drop) (h : m'.plane.jobs = m.plane.jobs.drop)
  | ran {first : QueuedJob (Job σ)} {rest : List (QueuedJob (Job σ))}
      {answer : Except JobError Reply} (hpending : m.plane.jobs.pending = first :: rest)
      (he : e = .job first.job.names (Machine.memory m.plane.machine))
      (hperform : (perform first.job (m.plane.watches, m.plane.machine)).Yields
        (answer, m'.plane.watches, m'.plane.machine))
      (h : m'.plane.jobs = Desk.withoutFirst m.plane.jobs first rest answer)

theorem queues_resume {stage : Stage} {pending : Pending} {progress : Progress}
    (h : (p.resume pending).Yields (progress, q)) :
    Queues ⟨stage, p⟩ (.resume pending progress) ⟨stage, q⟩ := by
  rcases resume_cases h with rfl | ⟨_, _, rfl⟩ | ⟨command, job, rfl⟩ | ⟨_, rfl⟩ |
    ⟨command, id, result, rfl, rfl, rfl⟩
  · exact .extended (.inl rfl)
  · exact .extended (.inl rfl)
  · exact .extended (p.handIn_jobs command job)
  · exact .extended (.inl rfl)
  · exact .attended rfl (.inl rfl)

theorem queues_giveUp (stage : Stage) (p : ControlPlane σ) (pending : Pending) :
    Queues ⟨stage, p⟩ (.giveUp pending (p.giveUp pending).1) ⟨stage, (p.giveUp pending).2⟩ := by
  rcases p.giveUp_cases pending with h | ⟨_, h⟩ | ⟨command, id, result, rfl, hresult, h⟩
  · rw [h]
    exact .extended (.inl rfl)
  · rw [h]
    exact .extended (.inl rfl)
  · refine .attended (by rw [hresult]; rfl) ?_
    exact h.imp (congrArg jobs) (congrArg jobs)

theorem Step.queues (h : Step m e m') : Queues m e m' := by
  cases h with
  | job hpending h =>
    obtain ⟨answer, hperform, hjobs⟩ := runNext_yields hpending h
    exact .ran hpending rfl hperform hjobs
  | call => exact .extended (call_jobs _ _ _)
  | resume h => exact queues_resume h
  | giveUp => exact queues_giveUp _ _ _
  | @submit stage p job awaited id jobs h =>
    unfold JobQueue.submit at h
    split_ifs at h with hdropped
    cases h
    exact .extended (.inr ⟨by simpa using hdropped, job, awaited, rfl⟩)
  | take => exact .attended rfl (.inl rfl)
  | abandon => exact .attended rfl (.inr rfl)
  | drop => exact .dropped rfl rfl
  | emulate h =>
    rw [(emulate_eq_some h).2]
    exact .extended (.inl rfl)
  | sample | idle | begin | refresh | count | define | fetch | input | register | collect
  | close => exact .extended (.inl rfl)

theorem Step.numbered (h : Step m e m') (hm : m.plane.jobs.Numbered) : m'.plane.jobs.Numbered := by
  cases h.queues with
  | extended h =>
    rcases h with hsame | ⟨-, job, awaited, htaken⟩
    · rwa [hsame]
    · rw [htaken]
      exact hm.withJob job awaited
  | attended _ h =>
    rcases h with hcollected | habandoned
    · rw [hcollected]
      exact hm.collect _
    · rw [habandoned]
      exact hm.abandon _
  | dropped _ h =>
    rw [h]
    exact ⟨nofun, hm.answers⟩
  | ran hpending _ _ h =>
    rw [h]
    exact hm.withoutFirst _ hpending

theorem Run.numbered (h : Run m log m') (hm : m.plane.jobs.Numbered) :
    m'.plane.jobs.Numbered :=
  h.keeps (·.plane.jobs.Numbered) (fun hm hstep => hstep.numbered hm) hm

/-! ## The simulation looks through its queue -/

/-- Jobs are handed in under new numbers, and only the end of the simulation closes the queue. -/
theorem Step.queue (h : Step m e m') :
    m.plane.jobs.issued ≤ m'.plane.jobs.issued ∧
      (∀ id ∈ m'.plane.jobs.pending.map (·.id),
        id ∈ m.plane.jobs.pending.map (·.id) ∨ m.plane.jobs.issued ≤ id) ∧
      (e ≠ .drop → m'.plane.jobs.dropped = m.plane.jobs.dropped) := by
  cases h.queues with
  | extended h =>
    rcases h with hsame | ⟨-, job, awaited, htaken⟩
    · rw [hsame]
      exact ⟨le_rfl, fun _ => .inl, fun _ => rfl⟩
    · rw [htaken]
      refine ⟨Nat.le_succ _, fun id hid => ?_, fun _ => rfl⟩
      rw [Desk.withJob, List.map_append, List.mem_append] at hid
      exact hid.imp_right fun hnew => (List.mem_singleton.mp hnew).ge
  | attended _ h =>
    rcases h with hcollected | habandoned
    · obtain ⟨hpending, hissued, hdropped, -⟩ := JobQueue.collect_snd m.plane.jobs _
      rw [hcollected, hpending, hissued, hdropped]
      exact ⟨le_rfl, fun _ => .inl, fun _ => rfl⟩
    · rw [habandoned, JobQueue.map_pending_abandon _ fun _ => rfl]
      exact ⟨le_rfl, fun _ => .inl, fun _ => rfl⟩
  | dropped hdrop h =>
    rw [h]
    exact ⟨le_rfl, fun _ hid => absurd hid List.not_mem_nil, fun he => absurd hdrop he⟩
  | ran hpending _ _ h =>
    rw [h, hpending]
    exact ⟨le_rfl, fun _ hid => .inl (List.mem_cons_of_mem _ hid), fun _ => rfl⟩

/-- Once the simulation has gone on with its step, or ended it, the jobs handed in before are no
longer in the queue. -/
theorem Run.not_queued (h : Run m log m') (hid : id < m.plane.jobs.issued)
    (hserved : Event.begin ∈ log ∨ Event.idle ∈ log) :
    id ∉ m'.plane.jobs.pending.map (·.id) := by
  let I : List Event → Moment σ → Prop := fun log m =>
    id < m.plane.jobs.issued ∧
      (Event.begin ∈ log ∨ Event.idle ∈ log → id ∉ m.plane.jobs.pending.map (·.id))
  have hstep : ∀ {log m m' e}, I log m → Step m e m' → I (log ++ [e]) m' := by
    intro log m m' e hm h
    obtain ⟨hissued, hqueued, -⟩ := h.queue
    refine ⟨hm.1.trans_le hissued, fun hserved => ?_⟩
    by_cases hearlier : Event.begin ∈ log ∨ Event.idle ∈ log
    · exact fun hid => (hqueued id hid).elim (hm.2 hearlier) hm.1.not_ge
    · have he : e = .begin ∨ e = .idle := by
        simp only [List.mem_append, List.mem_singleton] at hserved
        tauto
      rcases he with rfl | rfl
      · cases h with
        | begin hjobs => simp [hjobs]
      · cases h with
        | idle hjobs => simp [hjobs]
  have hstart : I [] m := ⟨hid, by simp⟩
  exact (h.keeps_along I hstep [] hstart).2 hserved

/-! ## A job that resolves watches -/

/-- A schedule leaves these watches as they are defined, and the simulation does not go away. -/
structure Quiet (names : List String) (log : List Event) : Prop where
  stays : Event.drop ∉ log
  kept : ∀ name ∈ names, ∀ d, WatchOp.define name d ∉ history log

theorem quiet_append {log later : List Event} :
    Quiet names (log ++ later) ↔ Quiet names log ∧ Quiet names later := by
  constructor
  · intro h
    have hkept := h.kept
    simp only [history_append, List.mem_append, not_or] at hkept
    exact ⟨⟨fun hdrop => h.stays (List.mem_append_left _ hdrop),
        fun name hname d => (hkept name hname d).1⟩,
      ⟨fun hdrop => h.stays (List.mem_append_right _ hdrop),
        fun name hname d => (hkept name hname d).2⟩⟩
  · rintro ⟨hlog, hlater⟩
    refine ⟨by simp [hlog.stays, hlater.stays], fun name hname d => ?_⟩
    rw [history_append, List.mem_append, not_or]
    exact ⟨hlog.kept name hname d, hlater.kept name hname d⟩

/-- Each of these watches was read since it was defined. -/
def Shown (names : List String) (log : List Event) : Prop :=
  ∀ name ∈ names, (WatchHistory.memory? name (history log)).isSome

/-- What was read stays read as long as the watches are not defined anew. -/
theorem Shown.append {later : List Event} (h : Shown names log) (hquiet : Quiet names later) :
    Shown names (log ++ later) := by
  intro name hname
  have hnone := (WatchHistory.definition?_eq_none_iff name _).mpr (hquiet.kept name hname)
  rw [history_append, WatchHistory.memory?_append_history, hnone]
  change (Option.or _ _).isSome = true
  rw [Option.isSome_or, h name hname, Bool.or_true]

theorem Run.dropped_eq (h : Run m log m') (hquiet : Event.drop ∉ log) :
    m'.plane.jobs.dropped = m.plane.jobs.dropped := by
  induction h with
  | stop m => rfl
  | next hfirst _ ih =>
    rw [List.mem_cons, not_or] at hquiet
    rw [ih hquiet.2, hfirst.queue.2.2 (Ne.symm hquiet.1)]

/-- A job that resolves watches is in the queue, or its answer is kept and the watches were read. -/
structure Entrusted (id : Nat) (names : List String) (log : List Event) (m : Moment σ) : Prop where
  numbered : m.plane.jobs.Numbered
  queued : ∀ j ∈ m.plane.jobs.pending, j.id = id → j.job = .resolve names ∧ j.awaited = true
  answered : ∀ a ∈ m.plane.jobs.answers, a.1 = id → a.2 = .ok .done ∧ Shown names log
  there : id ∈ m.plane.jobs.pending.map (·.id) ∨ id ∈ m.plane.jobs.answers.map Prod.fst

omit [Machine σ] in
theorem entrusted_iff :
    Entrusted id names log m ↔
      m.plane.jobs.Kept id (.resolve names) fun answer => answer = .ok .done ∧ Shown names log :=
  ⟨fun h => ⟨h.numbered, h.queued, h.answered, h.there⟩,
    fun h => ⟨h.numbered, h.queued, h.answered, h.there⟩⟩

omit [Machine σ] in
theorem entrusted_withJob (hm : m.plane.jobs.Numbered)
    (h : m'.plane.jobs = Desk.withJob m.plane.jobs (.resolve names) true) :
    Entrusted m.plane.jobs.issued names log m' := by
  rw [entrusted_iff, h]
  exact JobQueue.kept_withJob hm _ _

theorem Entrusted.step (hm : Entrusted id names log m) (h : Step m e m') (hquiet : Quiet names [e])
    (hspares : e.attended? ≠ some id) : Entrusted id names (log ++ [e]) m' := by
  have hkept : m.plane.jobs.Kept id (.resolve names) fun answer =>
      answer = .ok .done ∧ Shown names (log ++ [e]) :=
    (entrusted_iff.mp hm).mono fun _ => And.imp_right fun hshown => hshown.append hquiet
  rw [entrusted_iff]
  cases h.queues with
  | extended h =>
    rcases h with hsame | ⟨-, job, awaited, htaken⟩
    · rwa [hsame]
    · rw [htaken]
      exact hkept.withJob job awaited
  | @attended other hother h =>
    have hne : id ≠ other := by
      rintro rfl
      exact hspares hother
    rcases h with hcollected | habandoned
    · rw [hcollected]
      exact hkept.collect hne
    · rw [habandoned]
      exact hkept.abandon hne
  | dropped hdrop => exact absurd (hdrop ▸ List.mem_singleton_self _) hquiet.stays
  | @ran first rest answer hpending he hperform h =>
    rw [h]
    refine hkept.withoutFirst hpending fun hid => ?_
    have hfirst := hm.queued first (hpending ▸ List.mem_cons_self) hid
    rw [hfirst.1] at hperform he
    refine ⟨congrArg Prod.fst (Access.yields_pure_iff.mp hperform), fun name hname => ?_⟩
    have hread : WatchHistory.memory? name e.watchOps = some (Machine.memory m.plane.machine) := by
      rw [he]
      exact WatchHistory.memory?_of_resolves name hname _
    rw [history_concat, WatchHistory.memory?_append_history, definition?_of_memory? hread, hread]
    rfl

theorem Run.entrusted {later : List Event} (h : Run m later m') (hquiet : Quiet names later)
    (hspares : ∀ e ∈ later, e.attended? ≠ some id) (hm : Entrusted id names log m) :
    Entrusted id names (log ++ later) m' := by
  induction h generalizing log with
  | stop m => rwa [List.append_nil]
  | @next m between m' e later hfirst _ ih =>
    rw [← List.singleton_append, quiet_append] at hquiet
    rw [List.forall_mem_cons] at hspares
    rw [List.append_cons]
    exact ih hquiet.2 hspares.2 (hm.step hfirst hquiet.1 hspares.1)

omit [Machine σ] in
/-- Whoever looks for the answer finds that the job is done, or that it is in the queue. -/
theorem Entrusted.collect (hm : Entrusted id names log m) :
    (m.plane.jobs.collect id).1 = some (.ok .done) ∧ Shown names log ∨
      m.plane.jobs.collect id = (none, m.plane.jobs) ∧
        id ∈ m.plane.jobs.pending.map (·.id) := by
  rcases (entrusted_iff.mp hm).collect_cases with ⟨answer, hfound, rfl, hshown⟩ | hqueued
  · exact .inl ⟨hfound, hshown⟩
  · exact .inr hqueued

end Schedule

end ConsoleLink
