import ConsoleLink.Remote.Request
import ConsoleLink.Proofs.Barrier.Tickets
import ConsoleLink.Proofs.Remote.Frames

/-! # A request among steps of the simulation

Between two actions of a request the simulation may make any number of steps, and a request that
waits may at any time find that it has waited too long. A log says in what order things happened
and what the frames were.
-/

namespace ConsoleLink

/-- Something that happens while a request is carried on. -/
inductive Happening where
  /-- A step that emulates a frame. -/
  | frame (f : Frame)
  /-- A step that emulates none. -/
  | idle
  /-- The next action of the request. -/
  | action
  /-- The time that the request may wait is over. -/
  | expiry

namespace Happening

/-- The frames of a log. -/
def frames : List Happening → List Frame
  | [] => []
  | .frame f :: log => f :: frames log
  | _ :: log => frames log

/-- The frames before the first action of a log. -/
def framesBefore : List Happening → List Frame
  | [] => []
  | .frame f :: log => f :: framesBefore log
  | .action :: _ => []
  | _ :: log => framesBefore log

/-- The frames after the first action of a log. -/
def framesAfter : List Happening → List Frame
  | [] => []
  | .action :: log => frames log
  | _ :: log => framesAfter log

theorem frames_cons (h : Happening) (log : List Happening) :
    frames (h :: log) = frames [h] ++ frames log := by
  cases h <;> rfl

theorem framesBefore_append_framesAfter (log : List Happening) :
    framesBefore log ++ framesAfter log = frames log := by
  induction log with
  | nil => rfl
  | cons h log ih =>
    cases h with
    | frame f => exact congrArg (f :: ·) ih
    | idle => exact ih
    | action => rfl
    | expiry => exact ih

end Happening

/-! ## Waiting for a frame -/

variable {σ : Type}

theorem resume_onFrame (p : ControlPlane σ) (ticket : Ticket) (holder : Option Port) :
    p.resume (.onFrame ticket holder) =
      pure (match (p.barrier.collect ticket).1 with
        | .ok none => .waiting (.onFrame ticket holder)
        | .ok (some frame) => .answered (.ok (ControlPlane.frameAnswer holder frame))
        | .error e => .answered (.error (.wait e)),
        { p with barrier := (p.barrier.collect ticket).2 }) := by
  unfold ControlPlane.resume
  dsimp only
  split <;> simp_all

theorem giveUp_onFrame (p : ControlPlane σ) (ticket : Ticket) (holder : Option Port) :
    p.giveUp (.onFrame ticket holder) =
      (.answered (match (p.barrier.collect ticket).1 with
        | .ok none => .error (.wait (.timeout ticket.target))
        | .ok (some frame) => .ok (ControlPlane.frameAnswer holder frame)
        | .error e => .error (.wait e)),
        { p with barrier := (p.barrier.collect ticket).2 }) := by
  unfold ControlPlane.giveUp
  dsimp only
  rw [Barrier.collectOrTimeout_fst, Barrier.collectOrTimeout_snd]
  rcases (p.barrier.collect ticket).1 with e | _ | frame <;> rfl

/-! ## Frames on a port -/

/-- The frames count down a port that starts out as `P`, one after another. -/
def CountsDown (port : Port) : PortInput → List Frame → Prop
  | _, [] => True
  | P, f :: fs => f.input.get port = P.advance ∧ CountsDown port P.advance fs

theorem CountsDown.append {port : Port} {P : PortInput} {fs gs : List Frame}
    (hfs : CountsDown port P fs) (hgs : CountsDown port (PortInput.advance^[fs.length] P) gs) :
    CountsDown port P (fs ++ gs) := by
  induction fs generalizing P with
  | nil => exact hgs
  | cons f fs ih => exact ⟨hfs.1, ih hfs.2 hgs⟩

/-- On how many of the frames a port was sampled with more in its queue than there was in it at
first. -/
def offers (port : Port) : PortInput → List Frame → Nat
  | _, [] => 0
  | P, f :: fs =>
    (if (f.input.get port).timed = P.advance.timed then 0 else 1) + offers port P.advance fs

theorem offers_append (port : Port) (P : PortInput) (fs gs : List Frame) :
    offers port P (fs ++ gs) =
      offers port P fs + offers port (PortInput.advance^[fs.length] P) gs := by
  induction fs generalizing P with
  | nil => simp [offers]
  | cons f fs ih =>
    rw [List.cons_append, offers, offers, ih]
    exact (Nat.add_assoc ..).symm

theorem CountsDown.offers_eq_zero {port : Port} {P : PortInput} {fs : List Frame}
    (h : CountsDown port P fs) : offers port P fs = 0 := by
  induction fs generalizing P with
  | nil => rfl
  | cons f fs ih => rw [offers, h.1, ih h.2, if_pos rfl]

/-- An overlay of `n` frames is offered on all but the last of the first `n` frames. -/
theorem CountsDown.offers_push {port : Port} {P : PortInput} {o : Overlay} {fs : List Frame}
    (ho : 0 < o.frames) (h : CountsDown port (P.push o) fs) :
    offers port P fs = min fs.length (o.frames - 1) := by
  induction fs generalizing P o with
  | nil => simp [offers]
  | cons f fs ih =>
    obtain ⟨hf, hfs⟩ := h
    rw [offers, hf, List.length_cons]
    rcases Nat.lt_or_ge 1 o.frames with hmore | hlast
    · rw [P.advance_push_of_lt o hmore] at hfs ⊢
      have hseen : (P.advance.push o.countDown).timed ≠ P.advance.timed := by
        simp [PortInput.push]
      have hleft : o.countDown.frames = o.frames - 1 := rfl
      rw [if_neg hseen, ih (by omega) hfs, hleft]
      omega
    · rw [P.advance_push_last o (by omega)] at hfs ⊢
      rw [if_pos rfl, hfs.offers_eq_zero]
      omega

/-! ## Frames on a control plane -/

variable {p q : ControlPlane σ}

/-- Between two control planes there were these frames, each of which counted down every port and
was counted on the barrier, and nothing else was done to ports and count. -/
structure Counted (p : ControlPlane σ) (fs : List Frame) (q : ControlPlane σ) : Prop where
  input : ∀ port, q.input.get port = PortInput.advance^[fs.length] (p.input.get port)
  barrier : q.barrier.frame = p.barrier.frame + fs.length
  countsDown : ∀ port, CountsDown port (p.input.get port) fs

theorem Counted.nil (hinput : q.input = p.input) (hframe : q.barrier.frame = p.barrier.frame) :
    Counted p [] q :=
  ⟨fun _ => by rw [hinput]; rfl, hframe, fun _ => trivial⟩

theorem Counted.append {r : ControlPlane σ} {fs gs : List Frame} (hfs : Counted p fs q)
    (hgs : Counted q gs r) : Counted p (fs ++ gs) r where
  input port := by
    rw [hgs.input, hfs.input, List.length_append, Nat.add_comm, Function.iterate_add_apply]
  barrier := by rw [hgs.barrier, hfs.barrier, List.length_append, Nat.add_assoc]
  countsDown port := by
    refine (hfs.countsDown port).append ?_
    rw [← hfs.input]
    exact hgs.countsDown port

variable [Machine σ]

theorem Counted.of_emulates {f : Frame} (h : p.Emulates f q) : Counted p [f] q where
  input port := h.input_get port
  barrier := by rw [h.barrier]; rfl
  countsDown port := ⟨by rw [h.input, h.input_get], trivial⟩

/-! ## Carrying a request on -/

/-- How far a request has got, and the control plane. -/
abbrev Exchange (σ : Type) := Progress × ControlPlane σ

/-- What one happening makes of a request that waits. -/
inductive Happens (pending : Pending) (p : ControlPlane σ) : Happening → Exchange σ → Prop where
  | frame {f : Frame} {q : ControlPlane σ} (h : p.Emulates f q) :
      Happens pending p (.frame f) (.waiting pending, q)
  | idle {q : ControlPlane σ} (h : p.Idles q) : Happens pending p .idle (.waiting pending, q)
  | action {t : Exchange σ} (h : (p.resume pending).Yields t) : Happens pending p .action t
  | expiry : Happens pending p .expiry (p.giveUp pending)

/-- A request is carried on by the happenings of a log, in their order, and not beyond its
answer. -/
inductive Carried : Exchange σ → List Happening → Exchange σ → Prop where
  | stop (s : Exchange σ) : Carried s [] s
  | next {pending : Pending} {p : ControlPlane σ} {happening : Happening} {s t : Exchange σ}
      {log : List Happening} (h : Happens pending p happening s) (hlater : Carried s log t) :
      Carried (.waiting pending, p) (happening :: log) t

theorem Carried.of_answered {result : Except RemoteError Json} {log : List Happening}
    {t : Exchange σ} (h : Carried (.answered result, p) log t) :
    log = [] ∧ t = (.answered result, p) := by
  cases h
  exact ⟨rfl, rfl⟩

end ConsoleLink
