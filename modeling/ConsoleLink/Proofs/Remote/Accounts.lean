import ConsoleLink.Proofs.Remote.Recency

/-! # Frames that are begun and frames that are counted

However requests come in between, from one time between steps to another the machine runs each frame
that was begun once, the barrier counts it once, and each port counts it down once.
-/

namespace ConsoleLink.Schedule

open ControlPlane

namespace Event

def isBegin : Event → Bool
  | .begin => true
  | _ => false

/-- Whether an event samples a port. -/
def samples (port : Port) : Event → Bool
  | .sample other => other == port
  | _ => false

/-- Whether an event is a part of a frame. -/
def isFrame : Event → Bool
  | .begin | .sample _ | .emulate | .refresh _ | .count => true
  | _ => false

/-- What an event does to the input. -/
def inputOp? (mode : Mode) : Event → Option InputOp
  | .sample port => some (.advance port)
  | .call method params _ => (HostEvent.call method params).inputOp? mode
  | .resume pending _ => (HostEvent.resume pending).inputOp? mode
  | .input op => some op
  | _ => none

/-- Whoever uses the input of a port directly counts no frame on it. -/
def Abstains (port : Port) (e : Event) : Prop := ∀ op, e = .input op → op.countsFrame port = false

end Event

/-- What the events of a schedule did to the input. -/
def inputHistory (mode : Mode) (log : List Event) : List InputOp :=
  log.filterMap (Event.inputOp? mode)

theorem inputHistory_cons (mode : Mode) (e : Event) (log : List Event) :
    inputHistory mode (e :: log) = (e.inputOp? mode).toList ++ inputHistory mode log := by
  cases h : e.inputOp? mode <;> simp [inputHistory, h]

namespace Stage

/-- How often a port has yet to be sampled. -/
def due (port : Port) : Stage → Nat
  | .sampling _ ports => ports.count port
  | _ => 0

end Stage

variable {σ : Type} [Machine σ] {m m' : Moment σ} {e : Event} {log : List Event} {port : Port}

/-! ## The input -/

/-- What an event does to the input depends on the event alone. -/
theorem Step.inputOp? (h : Step m e m') :
    m'.plane.options = m.plane.options ∧
      m'.plane.input =
        (e.inputOp? m.plane.options.mode).elim m.plane.input m.plane.input.apply := by
  cases h with
  | call => exact ⟨(call_acts _ _ _).options, (call_acts _ _ _).input⟩
  | resume h => exact ⟨(resume_acts h).options, (resume_acts h).input⟩
  | giveUp => exact ⟨(giveUp_acts _ _).options, (giveUp_acts _ _).input⟩
  | emulate h =>
    rw [(emulate_eq_some h).2]
    exact ⟨rfl, rfl⟩
  | _ => exact ⟨rfl, rfl⟩

theorem Step.input_get (h : Step m e m') (port : Port) :
    m'.plane.input.get port =
      (m.plane.input.get port).follow port (e.inputOp? m.plane.options.mode).toList := by
  rw [h.inputOp?.2]
  cases e.inputOp? m.plane.options.mode with
  | none => rfl
  | some op => exact Input.get_apply _ op port

theorem Run.input_get (h : Run m log m') (port : Port) :
    m'.plane.input.get port =
      (m.plane.input.get port).follow port (inputHistory m.plane.options.mode log) := by
  induction h with
  | stop m => rfl
  | next hfirst _ ih =>
    rw [ih, hfirst.input_get, hfirst.inputOp?.1, ← PortInput.follow_append, inputHistory_cons]

/-- A frame is counted on a port where the port is sampled. -/
theorem countsFrame_inputOp? {mode : Mode} {op : InputOp} (he : e.Abstains port)
    (h : e.inputOp? mode = some op) : op.countsFrame port = e.samples port := by
  cases e with
  | sample other =>
    cases h
    exact Bool.eq_iff_iff.mpr (by simp [InputOp.countsFrame, Event.samples, Fin.ext_iff])
  | call method params progress =>
    unfold Event.inputOp? HostEvent.inputOp? at h
    dsimp only at h
    split at h
    · exact Command.inputOp?_countsFrame h port
    · cases h
  | resume pending progress =>
    cases pending with
    | queueing =>
      cases h
      rfl
    | resolving | onFrame | onJob => cases h
  | input other =>
    cases h
    exact he op rfl
  | _ => cases h

theorem Step.due (h : Step m e m') (port : Port) :
    m'.stage.due port + (if e.samples port then 1 else 0) =
      m.stage.due port + if e.isBegin then 1 else 0 := by
  cases h with
  | begin =>
    exact List.count_eq_one_of_mem (List.nodup_finRange _) (List.mem_finRange port)
  | sample => exact List.count_cons.symm
  | _ => rfl

end ConsoleLink.Schedule
