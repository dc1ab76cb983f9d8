/-! # Jobs for the simulation

Requests hand jobs to the simulation, which runs them one at a time in the order in which they were
submitted. A request may wait for the answer of its job or give up waiting; the job runs in any
case, unless the queue is dropped first.
-/

namespace ConsoleLink

/-- Why a job gave no answer. -/
inductive JobError where
  | unavailable
  | failed (reason : String)
  | panicked (text : String)
  | timeout
  deriving DecidableEq

def JobError.message : JobError → String
  | .unavailable => "simulation thread is not running"
  | .failed reason => "job failed: " ++ reason
  | .panicked text => "job panicked: " ++ text
  | .timeout => "timed out waiting for the simulation thread"

/-- What a job panicked with is shown if it is text. -/
def JobError.ofPanic (payload : Option String) : JobError :=
  .panicked (payload.getD "unknown panic payload")

/-- A job in the queue. -/
structure QueuedJob (Job : Type) where
  id : Nat
  job : Job
  /-- Whether someone waits for its answer. -/
  awaited : Bool

/-- The jobs of a simulation and the answers not yet collected. -/
structure JobQueue (Job Reply : Type) where
  pending : List (QueuedJob Job) := []
  answers : List (Nat × Except JobError Reply) := []
  /-- How many jobs there have been. -/
  issued : Nat := 0
  /-- Whether the simulation is gone. -/
  dropped : Bool := false

namespace JobQueue

variable {Job Reply σ : Type} {m : Type → Type}

def size (q : JobQueue Job Reply) : Nat := q.pending.length

/-- Puts a job at the end of the queue; the number under which its answer will be. -/
def submit (q : JobQueue Job Reply) (job : Job) (awaited : Bool) :
    Except JobError (Nat × JobQueue Job Reply) :=
  if q.dropped then .error .unavailable
  else .ok (q.issued,
    { q with pending := q.pending ++ [⟨q.issued, job, awaited⟩], issued := q.issued + 1 })

/-- Runs the first job; its answer is kept if someone waits for it. -/
def runNext [Monad m] (run : Job → σ → m (Except JobError Reply × σ))
    (q : JobQueue Job Reply) (s : σ) : m (JobQueue Job Reply × σ) :=
  match q.pending with
  | [] => pure (q, s)
  | first :: rest => do
    let (answer, s) ← run first.job s
    let answers := if first.awaited then q.answers ++ [(first.id, answer)] else q.answers
    return ({ q with pending := rest, answers := answers }, s)

/-- Runs the first `n` jobs. -/
def runMany [Monad m] (run : Job → σ → m (Except JobError Reply × σ)) :
    (n : Nat) → JobQueue Job Reply → σ → m (JobQueue Job Reply × σ)
  | 0, q, s => pure (q, s)
  | n + 1, q, s => do
    let (q, s) ← q.runNext run s
    runMany run n q s

/-- Runs every job in the queue. -/
def runPending [Monad m] (run : Job → σ → m (Except JobError Reply × σ))
    (q : JobQueue Job Reply) (s : σ) : m (JobQueue Job Reply × σ) :=
  runMany run q.size q s

/-- Collects the answer to a job; `none` while the job is in the queue. -/
def collect (q : JobQueue Job Reply) (id : Nat) :
    Option (Except JobError Reply) × JobQueue Job Reply :=
  match q.answers.lookup id with
  | some answer => (some answer, { q with answers := q.answers.filter fun a => a.1 ≠ id })
  | none =>
    if q.pending.any fun j => j.id == id then (none, q) else (some (.error .unavailable), q)

/-- Whoever waited for a job has given up. -/
def abandon (q : JobQueue Job Reply) (id : Nat) : JobQueue Job Reply :=
  { q with
    pending := q.pending.map fun j => if j.id = id then { j with awaited := false } else j
    answers := q.answers.filter fun a => a.1 ≠ id }

/-- Collects the answer to a job for someone who waits no longer; without one the job stays in its
place. -/
def collectOrTimeout (q : JobQueue Job Reply) (id : Nat) :
    Except JobError Reply × JobQueue Job Reply :=
  match q.collect id with
  | (some answer, q) => (answer, q)
  | (none, q) => (.error .timeout, q.abandon id)

/-- The simulation goes away with its queue. -/
def drop (q : JobQueue Job Reply) : JobQueue Job Reply := { q with pending := [], dropped := true }

end JobQueue

end ConsoleLink
