import ConsoleLink.Text.Digits

/-! # The frame barrier

A count of emulated frames that requests can wait on. A request registers for a number of frames
and gets a ticket; the frame that reaches the ticket's target releases it, and whoever holds the
ticket collects the release once. Closing the barrier turns away every ticket not yet released and
every later one.
-/

namespace ConsoleLink

/-- Why a wait for frames did not succeed. -/
inductive WaitError where
  | zeroFrames
  | timeout (target : Nat)
  | closed (target : Nat)
  deriving DecidableEq

def WaitError.message : WaitError → String
  | .zeroFrames => "frame wait must cover at least one frame"
  | .timeout target => "timed out waiting for frame " ++ Text.decimalText target
  | .closed target => "simulation stopped before frame " ++ Text.decimalText target

/-- A registered wait. -/
structure Ticket where
  id : Nat
  /-- The frame that releases it. -/
  target : Nat
  deriving DecidableEq

/-- The barrier. -/
structure Barrier where
  /-- Frames counted so far. -/
  frame : Nat := 0
  /-- Tickets not yet released. -/
  waiters : List Ticket := []
  /-- Releases not yet collected: the ticket, and the frame at which it was released. -/
  releases : List (Nat × Nat) := []
  /-- How many tickets there have been. -/
  issued : Nat := 0
  closed : Bool := false
  deriving DecidableEq

namespace Barrier

/-- The last frame number that a target can have. -/
def lastFrame : Nat := UInt64.size - 1

/-- How many tickets are not yet released. -/
def pending (b : Barrier) : Nat := b.waiters.length

/-- Counts one frame and releases every ticket whose target is reached. -/
def advance (b : Barrier) : Barrier :=
  let now := b.frame + 1
  let reached := b.waiters.filter fun t => t.target ≤ now
  { b with
    frame := now
    waiters := b.waiters.filter fun t => now < t.target
    releases := b.releases ++ reached.map fun t => (t.id, now) }

/-- Registers for `frames` frames from now. -/
def register (b : Barrier) (frames : Nat) : Except WaitError (Ticket × Barrier) :=
  if frames = 0 then .error .zeroFrames
  else
    let target := min (b.frame + frames) lastFrame
    if b.closed then .error (.closed target)
    else
      let ticket : Ticket := ⟨b.issued, target⟩
      .ok (ticket, { b with waiters := b.waiters ++ [ticket], issued := b.issued + 1 })

/-- Turns away every ticket not yet released. -/
def close (b : Barrier) : Barrier := { b with closed := true, waiters := [] }

/-- Whether a ticket is still waiting. -/
def isWaiting (b : Barrier) (t : Ticket) : Bool := b.waiters.any fun w => w.id == t.id

/-- Collects a ticket's release: the frame that released it, or `none` while it waits. A ticket
that is neither released nor waiting was turned away or has been collected. -/
def collect (b : Barrier) (t : Ticket) : Except WaitError (Option Nat) × Barrier :=
  match b.releases.lookup t.id with
  | some frame => (.ok (some frame), { b with releases := b.releases.filter fun r => r.1 ≠ t.id })
  | none => if b.isWaiting t then (.ok none, b) else (.error (.closed t.target), b)

/-- Collects a ticket whose holder waits no longer. -/
def collectOrTimeout (b : Barrier) (t : Ticket) : Except WaitError Nat × Barrier :=
  match b.collect t with
  | (.ok (some frame), b) => (.ok frame, b)
  | (.ok none, b) => (.error (.timeout t.target), b)
  | (.error e, b) => (.error e, b)

end Barrier

end ConsoleLink
