import ConsoleLink.Proofs.Jobs.Desk
import ConsoleLink.Remote.ControlPlane
import Mathlib.Data.List.Induction

/-! # What becomes of jobs and of their answers

From the operations alone it is known which jobs are run and in what order: neither how a job ends
nor who still waits plays a part in it. Everyone who waits gets one answer, that of the own job,
unless the wait was over or the queue was dropped before the job ran.
-/

namespace ConsoleLink

def DeskOp.isSubmission {Job : Type} : DeskOp Job → Bool
  | .submit _ _ => true
  | _ => false

namespace DeskHistory

variable {Job : Type}

/-- The jobs that are taken, and whether somebody waits for them: those that are handed in before
the queue is dropped. -/
def accepted : List (DeskOp Job) → List (Job × Bool)
  | [] => []
  | .submit job awaited :: ops => (job, awaited) :: accepted ops
  | .drop :: _ => []
  | .run :: ops | .look _ _ :: ops => accepted ops

/-- The jobs that are taken. -/
def jobs (ops : List (DeskOp Job)) : List Job := (accepted ops).map Prod.fst

/-- How many jobs are run if there are so many in the queue at first. -/
def runs : (queued : Nat) → List (DeskOp Job) → Nat
  | _, [] => 0
  | queued, .submit _ _ :: ops => runs (queued + 1) ops
  | queued + 1, .run :: ops => runs queued ops + 1
  | 0, .run :: ops => runs 0 ops
  | queued, .look _ _ :: ops => runs queued ops
  | _, .drop :: _ => 0

/-- How many jobs are handed in too late. -/
def late : List (DeskOp Job) → Nat
  | [] => 0
  | .drop :: ops => ops.countP DeskOp.isSubmission
  | _ :: ops => late ops

/-- The jobs that are run, in this order. -/
def completed (ops : List (DeskOp Job)) : List Job := (jobs ops).take (runs 0 ops)

variable {ops : List (DeskOp Job)}

theorem accepted_append_of_open (h : .drop ∉ ops) (later : List (DeskOp Job)) :
    accepted (ops ++ later) = accepted ops ++ accepted later := by
  induction ops with
  | nil => rfl
  | cons op ops ih =>
    rw [List.mem_cons, not_or] at h
    cases op with
    | submit => exact congrArg (_ :: ·) (ih h.2)
    | run | look => exact ih h.2
    | drop => exact absurd rfl h.1

theorem accepted_append_of_dropped (h : .drop ∈ ops) (later : List (DeskOp Job)) :
    accepted (ops ++ later) = accepted ops := by
  induction ops with
  | nil => cases h
  | cons op ops ih =>
    cases op with
    | submit => exact congrArg (_ :: ·) (ih (by simpa using h))
    | run | look => exact ih (by simpa using h)
    | drop => rfl

theorem runs_le (queued : Nat) (ops : List (DeskOp Job)) :
    runs queued ops ≤ queued + (accepted ops).length := by
  induction ops generalizing queued with
  | nil => exact Nat.zero_le _
  | cons op ops ih =>
    cases op with
    | submit =>
      have h := ih (queued + 1)
      simp only [runs, accepted, List.length_cons]
      omega
    | run =>
      cases queued with
      | zero => exact ih 0
      | succ queued =>
        have h := ih queued
        simp only [runs, accepted]
        omega
    | look => exact ih queued
    | drop => exact Nat.zero_le _

theorem runs_append_of_open (h : .drop ∉ ops) (queued : Nat) (later : List (DeskOp Job)) :
    runs queued (ops ++ later) =
      runs queued ops + runs (queued + (accepted ops).length - runs queued ops) later := by
  induction ops generalizing queued with
  | nil => simp [runs, accepted]
  | cons op ops ih =>
    rw [List.mem_cons, not_or] at h
    rw [List.cons_append]
    cases op with
    | submit =>
      rw [runs, runs, ih h.2, accepted, List.length_cons]
      congr 2
      omega
    | run =>
      cases queued with
      | zero => simp only [runs, accepted, ih h.2]
      | succ queued =>
        rw [runs, runs, ih h.2, accepted]
        have hleft : queued + 1 + (accepted ops).length - (runs queued ops + 1) =
            queued + (accepted ops).length - runs queued ops := by omega
        rw [hleft]
        omega
    | look => simp only [runs, accepted, ih h.2]
    | drop => exact absurd rfl h.1

theorem runs_append_of_dropped (h : .drop ∈ ops) (queued : Nat) (later : List (DeskOp Job)) :
    runs queued (ops ++ later) = runs queued ops := by
  induction ops generalizing queued with
  | nil => cases h
  | cons op ops ih =>
    rw [List.cons_append]
    cases op with
    | submit => exact ih (by simpa using h) _
    | run =>
      cases queued with
      | zero => exact ih (by simpa using h) _
      | succ queued => exact congrArg (· + 1) (ih (by simpa using h) _)
    | look => exact ih (by simpa using h) _
    | drop => rfl

theorem late_append_of_open (h : .drop ∉ ops) (later : List (DeskOp Job)) :
    late (ops ++ later) = late later := by
  induction ops with
  | nil => rfl
  | cons op ops ih =>
    rw [List.mem_cons, not_or] at h
    cases op with
    | submit | run | look => exact ih h.2
    | drop => exact absurd rfl h.1

theorem late_append_of_dropped (h : .drop ∈ ops) (later : List (DeskOp Job)) :
    late (ops ++ later) = late ops + later.countP DeskOp.isSubmission := by
  induction ops with
  | nil => cases h
  | cons op ops ih =>
    cases op with
    | submit | run | look => exact ih (by simpa using h)
    | drop => exact List.countP_append

/-- A job that is run stays in its place. -/
theorem completed_grows (ops later : List (DeskOp Job)) :
    completed ops <+: completed (ops ++ later) := by
  by_cases h : .drop ∈ ops
  · have hsame : completed (ops ++ later) = completed ops := by
      simp only [completed, jobs, accepted_append_of_dropped h, runs_append_of_dropped h]
    exact hsame ▸ List.prefix_rfl
  · have hle : runs 0 ops ≤ ((accepted ops).map Prod.fst).length := by
      simpa using runs_le 0 ops
    rw [completed, completed, jobs, jobs, accepted_append_of_open h, runs_append_of_open h,
      List.map_append, ← List.take_append_of_le_length hle]
    exact List.take_prefix_take_left (Nat.le_add_right ..)

theorem accepted_concat_of_keep {op : DeskOp Job} (h : op.isSubmission = false) :
    accepted (ops ++ [op]) = accepted ops := by
  by_cases hgone : .drop ∈ ops
  · exact accepted_append_of_dropped hgone _
  · rw [accepted_append_of_open hgone]
    cases op with
    | submit => cases h
    | run | look | drop => exact List.append_nil _

theorem getElem?_accepted_concat (hopen : .drop ∉ ops) (job : Job) (awaited : Bool) (id : Nat) :
    (∃ j, (accepted (ops ++ [.submit job awaited]))[id]? = some (j, true)) ↔
      (∃ j, (accepted ops)[id]? = some (j, true)) ∨
        awaited = true ∧ id = (accepted ops).length := by
  rw [accepted_append_of_open hopen]
  rcases Nat.lt_trichotomy id (accepted ops).length with h | rfl | h
  · simp [List.getElem?_append_left h, h.ne]
  · simp [accepted]
  · have hnone : [(job, awaited)][id - (accepted ops).length]? = none :=
      List.getElem?_eq_none (by simp; omega)
    simp [accepted, List.getElem?_append_right h.le, h.ne', h.le, hnone]

end DeskHistory

namespace Desk

open DeskHistory

variable {Job Reply σ : Type} {work : Job → σ → JobEnd Reply × σ} {s : σ}
  {d d' : Desk Job Reply σ} {op : DeskOp Job} {ops : List (DeskOp Job)}

/-! ## Which jobs are run -/

theorem Effect.dropped_iff (h : Effect work d op d') :
    d'.queue.dropped = true ↔ d.queue.dropped = true ∨ op = .drop := by
  cases h with
  | taken | refused | ran | idle | unserved | expired => exact (or_iff_left nofun).symm
  | @served id =>
    rw [serve, (d.queue.collect_snd id).2.2.1]
    exact (or_iff_left nofun).symm
  | dropped => exact iff_of_true rfl (.inr rfl)

/-- An operation runs the first job, if it is to run one, and leaves the rest in their order. -/
theorem Effect.order (h : Effect work d op d') (hopen : d.queue.dropped = false)
    (hop : op ≠ .drop) : d'.executed ++ d'.queue.pending.map (·.job) =
      d.executed ++ d.queue.pending.map (·.job) ++ jobs [op] := by
  cases h with
  | taken => simp [withJob, jobs, accepted]
  | refused hgone => exact absurd (hopen.symm.trans hgone) Bool.false_ne_true
  | ran h => simp [withoutFirst, h, jobs, accepted]
  | idle | unserved => exact (List.append_nil _).symm
  | @served id =>
    rw [serve, (d.queue.collect_snd id).1]
    exact (List.append_nil _).symm
  | expired =>
    rw [serve, JobQueue.map_pending_abandon _ fun _ => rfl]
    exact (List.append_nil _).symm
  | dropped => exact absurd rfl hop

theorem Effect.length_executed (h : Effect work d op d') :
    d'.executed.length = d.executed.length + runs d.queue.pending.length [op] := by
  cases h with
  | ran h => simp [h, runs]
  | idle h => simp [h, runs]
  | taken | refused | unserved | served | expired | dropped => rfl

theorem Effect.executed_eq (h : Effect work d op d') (hnone : d.queue.pending = [] ∨ op = .drop) :
    d'.executed = d.executed := by
  cases h with
  | ran h => simp [h] at hnone
  | taken | refused | idle | unserved | served | expired | dropped => rfl

theorem Effect.issued (h : Effect work d op d') : d'.queue.issued =
    d.queue.issued + if d.queue.dropped then 0 else (accepted [op]).length := by
  cases h with
  | taken h => simp [h, withJob, accepted]
  | refused h => simp [h]
  | @served id => simp [serve, (d.queue.collect_snd id).2.1, accepted]
  | ran | idle | unserved | expired | dropped =>
    simp [withoutFirst, serve, JobQueue.abandon, JobQueue.drop, accepted]

theorem Effect.refused_eq (h : Effect work d op d') : d'.refused =
    d.refused ++ if d.queue.dropped && op.isSubmission then [.unavailable] else [] := by
  cases h with
  | taken h | refused h => simp [h, DeskOp.isSubmission]
  | ran | idle | unserved | served | expired | dropped => simp [serve, DeskOp.isSubmission]

/-- The queue and the record of a desk are as the operations tell. -/
structure Tallies (ops : List (DeskOp Job)) (d : Desk Job Reply σ) : Prop where
  dropped : d.queue.dropped = true ↔ .drop ∈ ops
  count : runs 0 ops = d.executed.length
  before : d.executed <+: jobs ops
  order : .drop ∉ ops → d.executed ++ d.queue.pending.map (·.job) = jobs ops
  issued : d.queue.issued = (accepted ops).length
  refused : d.refused = List.replicate (late ops) .unavailable

theorem tallies_opened (s : σ) : Tallies [] (opened s : Desk Job Reply σ) := by
  constructor <;> simp [opened, runs, jobs, accepted, late]

theorem jobs_append_of_open (h : .drop ∉ ops) (later : List (DeskOp Job)) :
    jobs (ops ++ later) = jobs ops ++ jobs later := by
  rw [jobs, accepted_append_of_open h, List.map_append]
  rfl

theorem Effect.tallies_open (h : Effect work d op d') (hd : Tallies ops d) (hopen : .drop ∉ ops) :
    Tallies (ops ++ [op]) d' := by
  have hdropped : d.queue.dropped = false := by simpa [hopen] using hd.dropped
  have horder : .drop ∉ ops ++ [op] →
      d'.executed ++ d'.queue.pending.map (·.job) = jobs (ops ++ [op]) := by
    intro hstill
    have hop : op ≠ .drop := by
      rintro rfl
      simp at hstill
    rw [h.order hdropped hop, hd.order hopen, jobs_append_of_open hopen]
  -- the jobs that the count of runs starts from are those in the queue
  have hlength : (accepted ops).length - runs 0 ops = d.queue.pending.length := by
    have hlengths := congrArg List.length (hd.order hopen)
    simp only [List.length_append, List.length_map, jobs] at hlengths
    rw [hd.count]
    omega
  constructor
  case dropped => simp [h.dropped_iff, hd.dropped, eq_comm]
  case count => rw [runs_append_of_open hopen, Nat.zero_add, hlength, hd.count, h.length_executed]
  case before =>
    by_cases hop : op = .drop
    · rw [h.executed_eq (.inr hop), jobs_append_of_open hopen]
      exact hd.before.trans (List.prefix_append _ _)
    · rw [← horder (by simpa [hopen] using Ne.symm hop)]
      exact List.prefix_append _ _
  case order => exact horder
  case issued => simp [h.issued, hd.issued, hdropped, accepted_append_of_open hopen]
  case refused =>
    have hnone : late ops = 0 := by simpa [late] using late_append_of_open hopen []
    have hone : late [op] = 0 := by cases op <;> rfl
    rw [h.refused_eq, hd.refused, hdropped, late_append_of_open hopen, hnone, hone]
    rfl

theorem Effect.tallies_dropped (h : Effect work d op d') (hc : Consistent work s d)
    (hd : Tallies ops d) (hgone : .drop ∈ ops) : Tallies (ops ++ [op]) d' := by
  have hdropped : d.queue.dropped = true := hd.dropped.mpr hgone
  have hexecuted := h.executed_eq (.inl (hc.lost hdropped))
  constructor
  case dropped => simp [h.dropped_iff, hdropped, hgone]
  case count => rw [runs_append_of_dropped hgone, hexecuted, hd.count]
  case before =>
    rw [hexecuted, jobs, accepted_append_of_dropped hgone]
    exact hd.before
  case order => exact fun hopen => absurd (List.mem_append_left _ hgone) hopen
  case issued => simp [h.issued, hdropped, accepted_append_of_dropped hgone, hd.issued]
  case refused =>
    rw [h.refused_eq, hd.refused, hdropped, late_append_of_dropped hgone, List.replicate_add]
    cases hop : op.isSubmission <;> simp [hop]

theorem Effect.tallies (h : Effect work d op d') (hc : Consistent work s d) (hd : Tallies ops d) :
    Tallies (ops ++ [op]) d' := by
  by_cases hgone : .drop ∈ ops
  · exact h.tallies_dropped hc hd hgone
  · exact h.tallies_open hd hgone

/-! ## What submitters get -/

variable (work s ops)

/-- A submitter rightly gets this for the job of a number: what the job itself ended with, that it
took too long if the last look was taken before the job ran, or that the simulation is gone if it
went before the job ran. -/
inductive Due (id : Nat) : Except JobError Reply → Prop where
  | own {answer : Except JobError Reply} (h : outcome? work s (completed ops) id = some answer) :
      Due id answer
  | expired {before later : List (DeskOp Job)} (hops : ops = before ++ .look id true :: later)
      (hopen : .drop ∉ before) (hunrun : runs 0 before ≤ id)
      (hknown : id < (accepted before).length) : Due id (.error .timeout)
  | dropped (hgone : .drop ∈ ops) (hunrun : runs 0 ops ≤ id) : Due id (.error .unavailable)

variable {work s ops}

theorem outcome?_grows {jobs later : List Job} (h : jobs <+: later) {id : Nat}
    {answer : Except JobError Reply} (hanswer : outcome? work s jobs id = some answer) :
    outcome? work s later id = some answer := by
  obtain ⟨rest, rfl⟩ := h
  rw [outcome?_append_of_lt, hanswer]
  by_contra hle
  rw [(outcome?_eq_none_iff work).mpr (Nat.le_of_not_lt hle)] at hanswer
  cases hanswer

theorem Due.append {id : Nat} {answer : Except JobError Reply} (h : Due work s ops id answer)
    (later : List (DeskOp Job)) : Due work s (ops ++ later) id answer := by
  cases h with
  | own h => exact .own (outcome?_grows (completed_grows ops later) h)
  | expired hops hopen hunrun hknown =>
    rw [hops, List.append_assoc, List.cons_append]
    exact .expired rfl hopen hunrun hknown
  | dropped hgone hunrun =>
    refine .dropped (List.mem_append_left _ hgone) ?_
    rwa [runs_append_of_dropped hgone]

theorem Tallies.executed_eq (hd : Tallies ops d) : d.executed = completed ops := by
  rw [completed, hd.count]
  exact (List.prefix_iff_eq_take.mp hd.before)

/-- What someone who waits for a job finds: what the job ended with, nothing while it is in the
queue, and that the simulation is gone if it went before. -/
inductive Finds (work : Job → σ → JobEnd Reply × σ) (s : σ) (ops : List (DeskOp Job))
    (d : Desk Job Reply σ) (id : Nat) : Option (Except JobError Reply) → Prop where
  | own {answer : Except JobError Reply} (h : outcome? work s d.executed id = some answer) :
      Finds work s ops d id (some answer)
  | nothing (hunrun : outcome? work s d.executed id = none) (hopen : .drop ∉ ops) :
      Finds work s ops d id none
  | lost (hunrun : outcome? work s d.executed id = none) (hgone : .drop ∈ ops) :
      Finds work s ops d id (some (.error .unavailable))

theorem finds_of_waiting (hc : Consistent work s d) (ht : Tallies ops d) {id : Nat}
    (hid : id ∈ d.waiting) : Finds work s ops d id (d.queue.collect id).1 := by
  have hanswers := hc.answers id hid
  cases houtcome : outcome? work s d.executed id with
  | some answer =>
    rw [JobQueue.collect_of_lookup (hanswers.trans houtcome)]
    exact .own houtcome
  | none =>
    have hnone := hanswers.trans houtcome
    by_cases hgone : .drop ∈ ops
    · rw [JobQueue.collect_of_lost hnone (hc.lost (ht.dropped.mpr hgone))]
      exact .lost houtcome hgone
    · -- the numbers in the queue are those from the first job not run up to the last one taken
      have hdropped : d.queue.dropped = false := by simpa [hgone] using ht.dropped
      have hqueued : id ∈ d.queue.pending.map (·.id) := by
        rw [hc.numbered, List.mem_range'_1, hc.kept hdropped]
        exact ⟨(outcome?_eq_none_iff work).mp houtcome, hc.known id hid⟩
      rw [JobQueue.collect_of_queued hnone hqueued]
      exact .nothing houtcome hgone

variable (work s ops)

/-- Everyone who waits for a taken job still does or has got one answer, and rightly so. -/
structure Served (d : Desk Job Reply σ) : Prop where
  once : (d.waiting ++ d.served.map Prod.fst).Nodup
  submitters : ∀ id, id ∈ d.waiting ++ d.served.map Prod.fst ↔
    ∃ job, (accepted ops)[id]? = some (job, true)
  due : ∀ r ∈ d.served, Due work s ops r.1 r.2

variable {work s ops}

theorem served_opened : Served work s [] (opened s : Desk Job Reply σ) := by
  constructor <;> simp [opened, accepted]

theorem Served.serve (hd : Served work s ops d) {id : Nat} (hid : id ∈ d.waiting)
    (last : Bool) {result : Except JobError Reply × JobQueue Job Reply}
    (hdue : Due work s (ops ++ [.look id last]) id result.1) :
    Served work s (ops ++ [.look id last]) (d.serve id result) := by
  obtain ⟨hwaiting, hserved, hapart⟩ := List.nodup_append.mp hd.once
  constructor
  case once =>
    rw [Desk.serve, List.map_append, List.nodup_append]
    refine ⟨hwaiting.filter _, ?_, ?_⟩
    · refine List.nodup_append.mpr ⟨hserved, List.nodup_singleton _, ?_⟩
      intro other hother _ hsame
      rw [List.eq_of_mem_singleton hsame]
      exact (hapart id hid other hother).symm
    · intro other hother _ hsame
      obtain ⟨hmem, hne⟩ : other ∈ d.waiting ∧ other ≠ id := by simpa using hother
      rcases List.mem_append.mp hsame with hsame | hsame
      · exact hapart other hmem _ hsame
      · rwa [List.eq_of_mem_singleton hsame]
  case submitters =>
    intro other
    rw [accepted_concat_of_keep rfl, ← hd.submitters]
    by_cases hother : other = id
    · simp [Desk.serve, hother, hid]
    · simp [Desk.serve, hother]
  case due =>
    intro r hr
    rcases List.mem_append.mp hr with hr | hr
    · exact (hd.due r hr).append _
    · rw [List.eq_of_mem_singleton hr]
      exact hdue

theorem Served.keep (hd : Served work s ops d) (haccepted : accepted (ops ++ [op]) = accepted ops)
    (hwaiting : d'.waiting = d.waiting) (hserved : d'.served = d.served) :
    Served work s (ops ++ [op]) d' where
  once := by
    rw [hwaiting, hserved]
    exact hd.once
  submitters id := by
    rw [hwaiting, hserved, haccepted]
    exact hd.submitters id
  due r hr := (hd.due r (hserved ▸ hr)).append _

theorem Served.known (hd : Served work s ops d) {id : Nat}
    (hid : id ∈ d.waiting ++ d.served.map Prod.fst) : id < (accepted ops).length := by
  obtain ⟨job, hjob⟩ := (hd.submitters id).mp hid
  exact (List.getElem?_eq_some_iff.mp hjob).1

theorem Served.taken (hd : Served work s ops d) (hopen : .drop ∉ ops)
    (hissued : d.queue.issued = (accepted ops).length) (job : Job) (awaited : Bool) :
    Served work s (ops ++ [.submit job awaited])
      { d with
        queue := withJob d.queue job awaited
        waiting := if awaited then d.waiting ++ [d.queue.issued] else d.waiting } := by
  have hnew : d.queue.issued ∉ d.waiting ++ d.served.map Prod.fst :=
    fun hmem => (hd.known hmem).ne hissued
  rw [List.mem_append, not_or] at hnew
  constructor
  case once =>
    cases awaited with
    | false => exact hd.once
    | true =>
      change (d.waiting ++ [d.queue.issued] ++ d.served.map Prod.fst).Nodup
      rw [List.append_assoc, List.singleton_append, List.nodup_middle, List.nodup_cons,
        List.mem_append, not_or]
      exact ⟨hnew, hd.once⟩
  case submitters =>
    intro id
    rw [getElem?_accepted_concat hopen, ← hd.submitters, ← hissued]
    cases awaited with
    | false => simp
    | true =>
      simp
      tauto
  case due => exact fun r hr => (hd.due r hr).append _

theorem Effect.served_append (h : Effect work d op d') (hc : Consistent work s d)
    (ht : Tallies ops d) (hd : Served work s ops d) : Served work s (ops ++ [op]) d' := by
  cases h with
  | @taken job awaited hopen =>
    have hstill : .drop ∉ ops := by
      rw [← ht.dropped, hopen]
      exact Bool.false_ne_true
    exact hd.taken hstill ht.issued job awaited
  | refused hgone =>
    exact hd.keep (accepted_append_of_dropped (ht.dropped.mp hgone) _) rfl rfl
  | ran | idle | unserved | dropped => exact hd.keep (accepted_concat_of_keep rfl) rfl rfl
  | @served id last answer hid h =>
    refine hd.serve hid last ?_
    have hfinds := h ▸ finds_of_waiting hc ht hid
    cases hfinds with
    | own h => exact .own (outcome?_grows (completed_grows ops _) (ht.executed_eq ▸ h))
    | lost hunrun hgone =>
      refine .dropped (List.mem_append_left _ hgone) ?_
      rw [runs_append_of_dropped hgone, ht.count]
      exact (outcome?_eq_none_iff work).mp hunrun
  | @expired id hid h =>
    refine hd.serve hid true ?_
    have hfinds := h ▸ finds_of_waiting hc ht hid
    cases hfinds with
    | nothing hunrun hopen =>
      refine .expired rfl hopen ?_ (hd.known (List.mem_append_left _ hid))
      rw [ht.count]
      exact (outcome?_eq_none_iff work).mp hunrun

/-- An answer that is there stays until its submitter has it. -/
theorem Effect.ready (h : Effect work d op d') (hc : Consistent work s d)
    {id : Nat} {answer : Except JobError Reply} (hid : id ∈ d.waiting)
    (hready : outcome? work s d.executed id = some answer) :
    id ∈ d'.waiting ∧ outcome? work s d'.executed id = some answer ∨ (id, answer) ∈ d'.served := by
  have hcollect : (d.queue.collect id).1 = some answer :=
    JobQueue.collect_of_lookup ((hc.answers id hid).trans hready)
  cases h with
  | @taken _ awaited =>
    refine .inl ⟨?_, hready⟩
    cases awaited with
    | false => exact hid
    | true => exact List.mem_append_left _ hid
  | refused | idle | unserved | dropped => exact .inl ⟨hid, hready⟩
  | ran => exact .inl ⟨hid, outcome?_grows (List.prefix_append _ _) hready⟩
  | @served other _ found _ h =>
    by_cases hother : id = other
    · subst hother
      cases h.symm.trans hcollect
      exact .inr (List.mem_append_right _ (List.mem_singleton_self _))
    · exact .inl ⟨by simp [Desk.serve, hid, hother], hready⟩
  | @expired other _ h =>
    have hother : id ≠ other := by
      rintro rfl
      cases h.symm.trans hcollect
    exact .inl ⟨by simp [Desk.serve, hid, hother], hready⟩

theorem Effect.mem_served (h : Effect work d op d') {r : Nat × Except JobError Reply}
    (hr : r ∈ d.served) : r ∈ d'.served := by
  cases h with
  | taken | refused | ran | idle | unserved | dropped => exact hr
  | served | expired => exact List.mem_append_left _ hr

theorem look_ready (hc : Consistent work s d) {id : Nat} {answer : Except JobError Reply}
    (hid : id ∈ d.waiting) (hready : outcome? work s d.executed id = some answer) (last : Bool) :
    (d.step work (.look id last)).served = d.served ++ [(id, answer)] := by
  rw [step_look_of_some work hid (JobQueue.collect_of_lookup ((hc.answers id hid).trans hready))]
  rfl

theorem look_queued (hc : Consistent work s d) (ht : Tallies ops d) {id : Nat}
    (hid : id ∈ d.waiting) (hunrun : outcome? work s d.executed id = none) (hopen : .drop ∉ ops) :
    d.step work (.look id false) = d ∧
      (d.step work (.look id true)).served = d.served ++ [(id, .error .timeout)] := by
  have hfinds := finds_of_waiting hc ht hid
  cases hcollect : (d.queue.collect id).1 with
  | some answer =>
    rw [hcollect] at hfinds
    cases hfinds with
    | own h => cases hunrun.symm.trans h
    | lost _ hgone => exact absurd hgone hopen
  | none =>
    obtain ⟨hstay, hexpire⟩ := step_look_of_none work hid hcollect
    refine ⟨hstay, ?_⟩
    rw [hexpire]
    rfl

theorem look_lost (hc : Consistent work s d) (ht : Tallies ops d) {id : Nat}
    (hid : id ∈ d.waiting) (hunrun : outcome? work s d.executed id = none) (hgone : .drop ∈ ops)
    (last : Bool) :
    (d.step work (.look id last)).served = d.served ++ [(id, .error .unavailable)] := by
  have hfinds := finds_of_waiting hc ht hid
  cases hcollect : (d.queue.collect id).1 with
  | some answer =>
    rw [step_look_of_some work hid hcollect]
    rw [hcollect] at hfinds
    cases hfinds with
    | own h => cases hunrun.symm.trans h
    | lost => rfl
  | none =>
    rw [hcollect] at hfinds
    cases hfinds with
    | nothing _ hopen => exact absurd hgone hopen

/-! ## Whole courses of operations -/

variable (work s ops)

theorem run_states : Consistent work s ((opened s).run work ops) ∧
    Tallies ops ((opened s).run work ops) ∧ Served work s ops ((opened s).run work ops) := by
  induction ops using List.reverseRecOn with
  | nil => exact ⟨consistent_opened work s, tallies_opened s, served_opened⟩
  | append_singleton ops op ih =>
    obtain ⟨hc, ht, hd⟩ := ih
    have heffect := step_effect work ((opened s).run work ops) op
    rw [run_append]
    exact ⟨heffect.consistent hc, heffect.tallies hc ht, heffect.served_append hc ht hd⟩

theorem run_ready (later : List (DeskOp Job)) {id : Nat} {answer : Except JobError Reply}
    (hid : id ∈ ((opened s).run work ops).waiting)
    (hready : outcome? work s ((opened s).run work ops).executed id = some answer) :
    id ∈ ((opened s).run work (ops ++ later)).waiting ∧
        outcome? work s ((opened s).run work (ops ++ later)).executed id = some answer ∨
      (id, answer) ∈ ((opened s).run work (ops ++ later)).served := by
  induction later using List.reverseRecOn with
  | nil =>
    rw [List.append_nil]
    exact .inl ⟨hid, hready⟩
  | append_singleton later op ih =>
    obtain ⟨hc, -, -⟩ := run_states work s (ops ++ later)
    have heffect := step_effect work ((opened s).run work (ops ++ later)) op
    rw [← List.append_assoc, run_append]
    rcases ih with ⟨hstill, houtcome⟩ | hserved
    · exact heffect.ready hc hstill houtcome
    · exact .inr (heffect.mem_served hserved)

/-- The jobs that are taken are run in the order in which they were handed in, and each is run on
what those before it left of the machine, however they ended. Those that are not yet run are in the
queue until it is dropped. -/
structure Ordered (d : Desk Job Reply σ) : Prop where
  executed : d.executed = (jobs ops).take (runs 0 ops)
  queued : .drop ∉ ops → d.queue.pending.map (·.job) = (jobs ops).drop (runs 0 ops)
  machine : d.machine = machineAfter work s d.executed
  refused : d.refused = List.replicate (late ops) .unavailable

/-- What the next look finds. -/
structure Answers (d : Desk Job Reply σ) : Prop where
  ready : ∀ id ∈ d.waiting, ∀ answer, outcome? work s d.executed id = some answer →
    (∀ last, (d.step work (.look id last)).served = d.served ++ [(id, answer)]) ∧
      ∀ later, id ∈ (d.run work later).waiting ∨ (id, answer) ∈ (d.run work later).served
  queued : ∀ id ∈ d.waiting, outcome? work s d.executed id = none → .drop ∉ ops →
    d.step work (.look id false) = d ∧
      (d.step work (.look id true)).served = d.served ++ [(id, .error .timeout)]
  lost : ∀ id ∈ d.waiting, outcome? work s d.executed id = none → .drop ∈ ops →
    ∀ last, (d.step work (.look id last)).served = d.served ++ [(id, .error .unavailable)]

variable {work s ops}

theorem Tallies.queued (ht : Tallies ops d) (hopen : .drop ∉ ops) :
    d.queue.pending.map (·.job) = (jobs ops).drop (runs 0 ops) := by
  rw [← ht.order hopen, ht.count, List.drop_left]

variable (work s ops)

/-- In every course of operations the jobs are run in the order in which they were handed in, each
once and each on what the others left; everyone who waits gets at most one answer, and rightly so;
and an answer that is there is what the next look finds. -/
theorem run_delivers : Ordered work s ops ((opened s).run work ops) ∧
    Served work s ops ((opened s).run work ops) ∧
    Answers work s ops ((opened s).run work ops) := by
  obtain ⟨hc, ht, hd⟩ := run_states work s ops
  refine ⟨⟨ht.executed_eq, ht.queued, hc.machine, ht.refused⟩, hd, ?_⟩
  constructor
  case ready =>
    intro id hid answer hready
    refine ⟨look_ready hc hid hready, fun later => ?_⟩
    rw [← run_append]
    exact (run_ready work s ops later hid hready).imp_left And.left
  case queued => exact fun id hid hunrun hopen => look_queued hc ht hid hunrun hopen
  case lost => exact fun id hid hunrun hgone => look_lost hc ht hid hunrun hgone

/-- Whoever is told that the simulation is gone, or that it took too long, is told so by a job that
ends so itself, unless the queue was dropped before the job ran, or the last look was taken
before. -/
theorem served_without_own {id : Nat} {e : JobError}
    (hserved : (id, .error e) ∈ ((opened s).run work ops).served)
    (hown : outcome? work s (completed ops) id ≠ some (.error e)) :
    (e = .unavailable ∧ .drop ∈ ops ∧ runs 0 ops ≤ id) ∨
      e = .timeout ∧ ∃ before later, ops = before ++ .look id true :: later ∧ .drop ∉ before ∧
        runs 0 before ≤ id := by
  obtain ⟨-, -, hd⟩ := run_states work s ops
  cases hd.due _ hserved with
  | own h => exact absurd h hown
  | expired hops hopen hunrun _ => exact .inr ⟨rfl, _, _, hops, hopen, hunrun⟩
  | dropped hgone hunrun => exact .inl ⟨rfl, hgone, hunrun⟩

/-- If no job itself ends so, then whoever is told that the simulation is gone waited for a job that
had not run when the queue was dropped. -/
theorem unavailable_only_if_dropped {id : Nat}
    (hjobs : ∀ job s, (work job s).1.answer ≠ .error .unavailable)
    (hserved : (id, .error .unavailable) ∈ ((opened s).run work ops).served) :
    .drop ∈ ops ∧ runs 0 ops ≤ id := by
  have hown : outcome? work s (completed ops) id ≠ some (.error .unavailable) := by
    intro h
    obtain ⟨job, -, hjob⟩ := Option.map_eq_some_iff.mp h
    exact hjobs _ _ hjob
  rcases served_without_own work s ops hserved hown with ⟨-, hdropped⟩ | ⟨htimeout, -⟩
  · exact hdropped
  · cases htimeout

/-! ## The jobs of a control plane -/

/-- To run several jobs at once is to run one after another. -/
theorem run_replicate (d : Desk Job Reply σ) (n : Nat) :
    ((d.run work (.replicate n .run)).queue, (d.run work (.replicate n .run)).machine) =
      (d.queue.runMany (attend work) n d.machine).run := by
  induction n generalizing d with
  | zero => rfl
  | succ n ih => exact ih (d.step work .run)

end Desk

namespace ControlPlane

variable {σ φ : Type} [Machine σ] [FileSystem φ]

/-- Does a job on some files. -/
def performOn (job : Job σ) (w : (Registry × σ) × φ) : JobEnd Reply × (Registry × σ) × φ :=
  let r := (perform job w.1).runOn w.2
  (.returned r.1.1, r.1.2, r.2)

theorem runNext_runOn (q : JobQueue (Job σ) Reply) (w : (Registry × σ) × φ) :
    (q.runNext perform w.1).runOn w.2 =
      let r := (q.runNext (Desk.attend performOn) w).run
      ((r.1, r.2.1), r.2.2) := by
  unfold JobQueue.runNext
  cases q.pending with
  | nil => rfl
  | cons first rest =>
    dsimp only
    rw [Access.runOn_bind]
    rfl

theorem runMany_runOn (n : Nat) (q : JobQueue (Job σ) Reply) (w : (Registry × σ) × φ) :
    (q.runMany perform n w.1).runOn w.2 =
      let r := (q.runMany (Desk.attend performOn) n w).run
      ((r.1, r.2.1), r.2.2) := by
  induction n generalizing q w with
  | zero => rfl
  | succ n ih =>
    rw [JobQueue.runMany, Access.runOn_bind, runNext_runOn]
    exact ih _ _

/-- On any files a control plane runs its jobs as they are run at a desk. -/
theorem runJobs_runOn (p : ControlPlane σ) (files : φ) :
    p.runJobs.runOn files =
      let d := Desk.run performOn { machine := ((p.watches, p.machine), files), queue := p.jobs }
        (.replicate p.jobs.size .run)
      ({ p with jobs := d.queue, watches := d.machine.1.1, machine := d.machine.1.2 },
        d.machine.2) := by
  have hdesk := Desk.run_replicate performOn
    { machine := ((p.watches, p.machine), files), queue := p.jobs } p.jobs.size
  have hqueue := congrArg Prod.fst hdesk
  have hmachine := congrArg Prod.snd hdesk
  dsimp only at hqueue hmachine ⊢
  rw [hqueue, hmachine, runJobs, Access.runOn_bind, JobQueue.runPending]
  have hmany := runMany_runOn p.jobs.size p.jobs ((p.watches, p.machine), files)
  rw [hmany]
  rfl

end ControlPlane

end ConsoleLink
