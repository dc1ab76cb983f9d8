import ConsoleLink.Pad.Input
import Mathlib.Logic.Function.Iterate

/-! # Overlays that count down

What a frame leaves of an overlay and of a queue of them, and what the operations on all ports do
to a single one. An overlay of `n` frames is gone after exactly `n` of them, whatever stands before
or behind it in its queue.
-/

namespace ConsoleLink

namespace Overlay

/-- What is left of an overlay after some frames; nothing once all of its frames are counted. -/
def after (o : Overlay) (frames : Nat) : List Overlay :=
  if frames < o.frames then [{ o with frames := o.frames - frames }] else []

/-- What a frame leaves of a queue of overlays. -/
def tick (queue : List Overlay) : List Overlay :=
  (queue.map countDown).filter fun o => 0 < o.frames

theorem after_zero (o : Overlay) (h : 0 < o.frames) : o.after 0 = [o] := by
  simp [after, h]

@[simp] theorem after_eq_nil_iff (o : Overlay) (frames : Nat) :
    o.after frames = [] ↔ o.frames ≤ frames := by
  unfold after
  split <;> simp <;> omega

@[simp] theorem tick_append (xs ys : List Overlay) : tick (xs ++ ys) = tick xs ++ tick ys := by
  simp [tick]

theorem tick_after (o : Overlay) (frames : Nat) : tick (o.after frames) = o.after (frames + 1) := by
  unfold after
  by_cases h : frames + 1 < o.frames
  · rw [if_pos (by omega), if_pos h]
    have hr : 0 < o.frames - (frames + 1) := by omega
    simp [tick, countDown, Nat.sub_sub, hr]
  · rw [if_neg h]
    split
    · have hr : o.frames - frames - 1 = 0 := by omega
      simp [tick, countDown, hr]
    · rfl

theorem tick_flatMap {α : Type} (f : α → List Overlay) (xs : List α) :
    tick (xs.flatMap f) = xs.flatMap fun x => tick (f x) := by
  induction xs with
  | nil => rfl
  | cons x xs ih => rw [List.flatMap_cons, List.flatMap_cons, tick_append, ih]

end Overlay

namespace PortInput

theorem advance_eq (p : PortInput) : p.advance = { p with timed := Overlay.tick p.timed } := rfl

/-- Adds an overlay at the end of the queue. -/
def push (p : PortInput) (o : Overlay) : PortInput := { p with timed := p.timed ++ [o] }

@[simp] theorem advance_enabled (p : PortInput) : p.advance.enabled = p.enabled := rfl

@[simp] theorem advance_latch (p : PortInput) : p.advance.latch = p.latch := rfl

@[simp] theorem iterate_advance_enabled (p : PortInput) (frames : Nat) :
    (advance^[frames] p).enabled = p.enabled := by
  induction frames generalizing p with
  | zero => rfl
  | succ frames ih => exact ih p.advance

@[simp] theorem iterate_advance_latch (p : PortInput) (frames : Nat) :
    (advance^[frames] p).latch = p.latch := by
  induction frames generalizing p with
  | zero => rfl
  | succ frames ih => exact ih p.advance

theorem advance_push_last (p : PortInput) (o : Overlay) (h : o.frames = 1) :
    (p.push o).advance = p.advance := by
  simp [push, advance_eq, Overlay.tick, Overlay.countDown, h]

theorem advance_push_of_lt (p : PortInput) (o : Overlay) (h : 1 < o.frames) :
    (p.push o).advance = p.advance.push o.countDown := by
  have hleft : 0 < o.frames - 1 := by omega
  simp [push, advance_eq, Overlay.tick, Overlay.countDown, hleft]

/-- An overlay counts down beside the others and does not change how these count down. -/
theorem iterate_advance_push_timed (p : PortInput) (o : Overlay) (h : 0 < o.frames)
    (frames : Nat) :
    (advance^[frames] (p.push o)).timed = (advance^[frames] p).timed ++ o.after frames := by
  induction frames with
  | zero => simp [push, o.after_zero h]
  | succ frames ih =>
    rw [Function.iterate_succ_apply', Function.iterate_succ_apply']
    simp only [advance_eq]
    rw [ih, Overlay.tick_append, Overlay.tick_after]

end PortInput

namespace Input

/-- The input of a port. -/
def get (i : Input) (port : Port) : PortInput := i.ports.get port

/-- At first a port is switched on, with a neutral latch and nothing queued. -/
theorem get_empty (port : Port) : ({} : Input).get port = {} :=
  Vector.getElem_replicate port.isLt

theorem port?_eq (i : Input) (port : Port) : i.port? port = some (i.get port) :=
  Vector.getElem?_eq_getElem port.isLt

@[simp] theorem get_modify (i : Input) (n : Nat) (f : PortInput → PortInput) (port : Port) :
    (i.modify n f).get port = if n = port then f (i.get port) else i.get port := by
  change (i.modify n f).ports[port] = if n = port then f i.ports[port] else i.ports[port]
  unfold modify
  by_cases h : n < portCount
  · by_cases he : n = port
    · subst he; simp [h]
    · simp [h, he]
  · have he : n ≠ port := fun he => h (he ▸ port.isLt)
    simp [h, he]

theorem status_eq (i : Input) (port : Port) (live : Pad) :
    i.status port live = (i.get port).status live := by
  simp [status, port?_eq]

theorem timedLength_eq (i : Input) (port : Port) :
    i.timedLength port = (i.get port).timed.length := by
  simp [timedLength, port?_eq]

end Input

end ConsoleLink
