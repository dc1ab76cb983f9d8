import ConsoleLink.Proofs.Pad.Overlays
import Mathlib.Data.List.Induction
import Mathlib.Tactic

/-! # What a port shows, from the history of its input

A history is the list of the operations on the input of the ports, the oldest first. What a port
shows is read off the history without running it: its latest switch, the latch set since it was
last switched from off to on, and the overlays that have frames left. `Input.run` arrives at the
same pads.
-/

namespace ConsoleLink

/-- An operation on the input of the ports. It may name a port that does not exist. -/
inductive InputOp where
  | setLatch (port : Nat) (pad : Pad)
  | setEnabled (port : Nat) (enabled : Bool)
  | queue (port : Nat) (overlay : Overlay)
  | advance (port : Nat)
  | nextFrame (port : Nat) (live : Pad)

namespace InputOp

/-- The latch that an operation sets on a port. -/
def latch? (port : Nat) : InputOp → Option Pad
  | .setLatch n pad => if n = port then some pad else none
  | _ => none

/-- How an operation switches a port. -/
def enabled? (port : Nat) : InputOp → Option Bool
  | .setEnabled n enabled => if n = port then some enabled else none
  | _ => none

/-- The overlay that an operation queues on a port; one of no frames is not queued. -/
def overlay? (port : Nat) : InputOp → Option Overlay
  | .queue n overlay => if n = port ∧ 0 < overlay.frames then some overlay else none
  | _ => none

/-- Whether an operation counts a frame on a port. -/
def countsFrame (port : Nat) : InputOp → Bool
  | .advance n => n == port
  | .nextFrame n _ => n == port
  | _ => false

theorem frames_pos_of_overlay? (op : InputOp) {port : Nat} {o : Overlay}
    (h : op.overlay? port = some o) : 0 < o.frames := by
  cases op with
  | queue n overlay =>
    simp only [overlay?, Option.ite_none_right_eq_some, Option.some.injEq] at h
    exact h.2 ▸ h.1.2
  | _ => cases h

end InputOp

namespace Input

/-- Carries out an operation. -/
def apply (i : Input) : InputOp → Input
  | .setLatch port pad => (i.setLatch port pad).2
  | .setEnabled port enabled => (i.setEnabled port enabled).2
  | .queue port overlay => (i.queue port overlay).2
  | .advance port => i.advance port
  | .nextFrame port live => (i.nextFrame port live).2

/-- The input after the operations of a history. -/
def run (history : List InputOp) : Input := history.foldl apply {}

end Input

namespace InputHistory

/-- Whether the latest switch of a port left it on; ports start on. -/
def isOn (port : Nat) (history : List InputOp) : Bool :=
  (history.filterMap (InputOp.enabled? port)).getLast?.getD true

/-- Whether the operation at a place switches a port from off to on. -/
def switchesOn (port : Nat) (history : List InputOp) (place : Nat) : Bool :=
  (history[place]?.bind (InputOp.enabled? port) == some true) && !isOn port (history.take place)

/-- The operations since a port was last switched from off to on, all of them if it never was. -/
def sinceOn (port : Nat) (history : List InputOp) : List InputOp :=
  match ((List.range history.length).filter (switchesOn port history)).getLast? with
  | some place => history.drop (place + 1)
  | none => history

/-- The latch set last since the port was last switched on. -/
def latch (port : Nat) (history : List InputOp) : Pad :=
  ((sinceOn port history).filterMap (InputOp.latch? port)).getLast?.getD .neutral

/-- How many frames are counted on a port. -/
def frames (port : Nat) (history : List InputOp) : Nat := history.countP (InputOp.countsFrame port)

/-- The overlays queued on a port, the oldest first, each with the frames counted since. -/
def queued (port : Nat) : List InputOp → List (Overlay × Nat)
  | [] => []
  | op :: later =>
    ((op.overlay? port).map fun o => (o, frames port later)).toList ++ queued port later

/-- The overlays of which fewer frames are counted than they were queued for. -/
def active (port : Nat) (history : List InputOp) : List Overlay :=
  ((queued port history).filter fun q => q.2 < q.1.frames).map Prod.fst

/-- The pad of the history alone: the latch, the buttons of every active overlay, and each stick of
the newest active overlay that names it. -/
def synthetic (port : Nat) (history : List InputOp) : Pad :=
  let base := latch port history
  let overlays := active port history
  { base with
    buttons := overlays.foldl (fun word o => word ||| o.buttons) base.buttons
    stick := (overlays.filterMap Overlay.stick).getLast?.getD base.stick
    substick := (overlays.filterMap Overlay.substick).getLast?.getD base.substick }

/-- What the machine gets to see on a port. -/
def status (port : Nat) (history : List InputOp) (live : Pad) : Pad :=
  if isOn port history then (synthetic port history).merge live else live

/-! ## One operation more -/

variable (port : Nat) (history : List InputOp) (op : InputOp)

theorem isOn_append :
    isOn port (history ++ [op]) = (op.enabled? port).getD (isOn port history) := by
  unfold isOn
  rw [List.filterMap_append]
  cases h : op.enabled? port <;> simp [h]

theorem switchesOn_append {place : Nat} (h : place < history.length) :
    switchesOn port (history ++ [op]) place = switchesOn port history place := by
  simp [switchesOn, List.getElem?_append_left h, List.take_append_of_le_length h.le]

theorem switchesOn_append_length :
    switchesOn port (history ++ [op]) history.length =
      ((op.enabled? port == some true) && !isOn port history) := by
  simp [switchesOn]

theorem sinceOn_append :
    sinceOn port (history ++ [op]) =
      if (op.enabled? port == some true) && !isOn port history then []
      else sinceOn port history ++ [op] := by
  have hbefore : (List.range history.length).filter (switchesOn port (history ++ [op])) =
      (List.range history.length).filter (switchesOn port history) :=
    List.filter_congr fun place hplace =>
      switchesOn_append port history op (List.mem_range.mp hplace)
  unfold sinceOn
  rw [List.length_append, List.length_singleton, List.range_succ, List.filter_append, hbefore,
    List.filter_cons, switchesOn_append_length]
  split_ifs with hswitch
  · simp
  · rw [List.filter_nil, List.append_nil]
    cases hlast : ((List.range history.length).filter (switchesOn port history)).getLast? with
    | none => rfl
    | some place =>
      have hmem := List.mem_of_getLast? hlast
      have hplace : place < history.length := List.mem_range.mp (List.mem_filter.mp hmem).1
      exact List.drop_append_of_le_length hplace

theorem latch_append :
    latch port (history ++ [op]) =
      if (op.enabled? port == some true) && !isOn port history then .neutral
      else (op.latch? port).getD (latch port history) := by
  unfold latch
  rw [sinceOn_append]
  split_ifs with hswitch
  · rfl
  · rw [List.filterMap_append]
    cases h : op.latch? port <;> simp [h]

theorem frames_append :
    frames port (history ++ [op]) = frames port history + (op.countsFrame port).toNat := by
  cases h : op.countsFrame port <;> simp [frames, h]

theorem queued_append :
    queued port (history ++ [op]) =
      (queued port history).map (fun q => (q.1, q.2 + (op.countsFrame port).toNat)) ++
        ((op.overlay? port).map fun o => (o, 0)).toList := by
  induction history with
  | nil => cases h : op.overlay? port <;> simp [queued, frames, h]
  | cons first later ih =>
    rw [List.cons_append, queued, queued, ih, frames_append]
    cases h : first.overlay? port <;> simp

/-- What is left of the overlays queued on a port. -/
def remaining : List Overlay := (queued port history).flatMap fun q => q.1.after q.2

theorem remaining_append :
    remaining port (history ++ [op]) =
      (if op.countsFrame port then Overlay.tick (remaining port history)
        else remaining port history) ++ (op.overlay? port).toList := by
  have hnew : (((op.overlay? port).map fun o => (o, 0)).toList.flatMap
      fun q => q.1.after q.2) = (op.overlay? port).toList := by
    cases h : op.overlay? port with
    | none => rfl
    | some o => simp [o.after_zero (op.frames_pos_of_overlay? h)]
  unfold remaining
  rw [queued_append, List.flatMap_append, hnew, List.flatMap_map]
  split_ifs with hcounts
  · simp [hcounts, Overlay.tick_flatMap, Overlay.tick_after]
  · simp [hcounts]

/-- The input of a port that a history amounts to. -/
def portInput : PortInput := ⟨isOn port history, latch port history, remaining port history⟩

theorem portInput_append :
    portInput port (history ++ [op]) =
      { enabled := (op.enabled? port).getD (portInput port history).enabled
        latch := if (op.enabled? port == some true) && !(portInput port history).enabled
          then .neutral else (op.latch? port).getD (portInput port history).latch
        timed := (if op.countsFrame port then Overlay.tick (portInput port history).timed
          else (portInput port history).timed) ++ (op.overlay? port).toList } := by
  rw [portInput, isOn_append, latch_append, remaining_append]
  rfl

end InputHistory

/-! ## The input after a history -/

namespace Input

/-- What an operation does to one port. -/
theorem get_apply (i : Input) (op : InputOp) (port : Port) :
    (i.apply op).get port =
      { enabled := (op.enabled? port).getD (i.get port).enabled
        latch := if (op.enabled? port == some true) && !(i.get port).enabled then .neutral
          else (op.latch? port).getD (i.get port).latch
        timed := (if op.countsFrame port then Overlay.tick (i.get port).timed
          else (i.get port).timed) ++ (op.overlay? port).toList } := by
  cases op with
  | setLatch n pad =>
    by_cases h : n = port <;>
      simp [apply, setLatch, InputOp.enabled?, InputOp.latch?, InputOp.overlay?,
        InputOp.countsFrame, h]
  | setEnabled n enabled =>
    by_cases h : n = port <;> cases enabled <;>
      simp [apply, setEnabled, PortInput.setEnabled, InputOp.enabled?,
        InputOp.latch?, InputOp.overlay?, InputOp.countsFrame, h]
  | queue n overlay =>
    by_cases h : n = port <;> by_cases hf : overlay.frames = 0 <;>
      simp [apply, queue, InputOp.enabled?, InputOp.latch?, InputOp.overlay?,
        InputOp.countsFrame, h, hf, Nat.pos_iff_ne_zero]
  | advance n =>
    by_cases h : n = port <;>
      simp [apply, advance, PortInput.advance_eq, InputOp.enabled?, InputOp.latch?,
        InputOp.overlay?, InputOp.countsFrame, h]
  | nextFrame n live =>
    by_cases h : n = port <;>
      simp [apply, nextFrame, advance, PortInput.advance_eq, InputOp.enabled?,
        InputOp.latch?, InputOp.overlay?, InputOp.countsFrame, h]

theorem run_append (history : List InputOp) (op : InputOp) :
    run (history ++ [op]) = (run history).apply op := by
  simp [run]

/-- The queue of a port holds what is left of the overlays of the history, its latch and its switch
are those of the history. -/
theorem get_run (history : List InputOp) (port : Port) :
    (run history).get port = InputHistory.portInput port history := by
  induction history using List.reverseRecOn with
  | nil => exact get_empty port
  | append_singleton history op ih =>
    rw [run_append, get_apply, ih, InputHistory.portInput_append]

end Input

/-! ## The pad of a queue -/

/-- An overlay that is counted down lies over a pad like a fresh one. -/
def Overlay.timeless (o : Overlay) : Overlay := { o with frames := 0 }

namespace InputHistory

theorem remaining_timeless (port : Nat) (history : List InputOp) :
    (remaining port history).map Overlay.timeless =
      (active port history).map Overlay.timeless := by
  unfold remaining active
  induction queued port history with
  | nil => rfl
  | cons q later ih =>
    rw [List.flatMap_cons, List.map_append, ih, Overlay.after]
    by_cases h : q.2 < q.1.frames <;> simp [h, Overlay.timeless]

theorem remaining_length (port : Nat) (history : List InputOp) :
    (remaining port history).length = (active port history).length := by
  simpa using congrArg List.length (remaining_timeless port history)

/-- Buttons add up, and of the overlays that name a stick the last one counts. -/
theorem foldl_onto (overlays : List Overlay) (base : Pad) :
    overlays.foldl (fun pad o => o.onto pad) base =
      { base with
        buttons := overlays.foldl (fun word o => word ||| o.buttons) base.buttons
        stick := (overlays.filterMap Overlay.stick).getLast?.getD base.stick
        substick := (overlays.filterMap Overlay.substick).getLast?.getD base.substick } := by
  induction overlays using List.reverseRecOn with
  | nil => rfl
  | append_singleton overlays o ih =>
    rw [List.foldl_append, List.foldl_cons, List.foldl_nil, ih]
    cases hs : o.stick <;> cases hc : o.substick <;> simp [Overlay.onto, hs, hc]

theorem foldl_onto_timeless (overlays : List Overlay) (base : Pad) :
    (overlays.map Overlay.timeless).foldl (fun pad o => o.onto pad) base =
      overlays.foldl (fun pad o => o.onto pad) base := by
  rw [List.foldl_map]
  rfl

theorem synthetic_portInput (port : Nat) (history : List InputOp) :
    (portInput port history).synthetic = synthetic port history := by
  show (remaining port history).foldl (fun pad o => o.onto pad) (latch port history) = _
  rw [← foldl_onto_timeless, remaining_timeless, foldl_onto_timeless, foldl_onto]
  rfl

end InputHistory

/-- After any operations, starting from ports that nobody has touched, a port shows the pad that its
history alone gives, and its queue is as long as there are active overlays. -/
theorem Input.status_run (history : List InputOp) (port : Port) (live : Pad) :
    (Input.run history).status port live = InputHistory.status port history live ∧
      (Input.run history).timedLength port = (InputHistory.active port history).length := by
  constructor
  · rw [status_eq, get_run, PortInput.status, InputHistory.synthetic_portInput]
    rfl
  · rw [timedLength_eq, get_run]
    exact InputHistory.remaining_length port history

end ConsoleLink
