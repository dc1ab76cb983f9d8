import ConsoleLink.Config
import ConsoleLink.Machine.Headless
import ConsoleLink.Remote.Request
import ConsoleLink.Rpc.Service

/-! # The program

What the command line does before it serves, and a whole run of it on the standard streams with a
machine that stays paused.
-/

namespace ConsoleLink

/-- How a run ends. -/
structure Outcome where
  /-- The exit code. -/
  code : UInt32 := 0
  /-- What is written on the standard output; a line feed follows each text. -/
  output : List String := []
  /-- What is written on the standard error output; a line feed follows each text. -/
  errors : List String := []

namespace Program

/-- The end of a run that cannot serve. -/
def failure : Outcome := { code := 1 }

/-- The end of a run whose machine panics. -/
def panic : Outcome := { code := 101 }

/-- The configuration, or the end of a run that does not get any further. -/
def configure (lookup : String → Option String) (arguments : List String) :
    Except Outcome Config :=
  match Config.ofEnvironment lookup with
  | .error e => .error { code := 1, errors := ["Configuration error: " ++ e.message] }
  | .ok c =>
    match c.applyArguments arguments with
    | (.ok .run, c) => .ok c
    | (.ok .help, _) => .error { code := 0, errors := Config.usage }
    | (.error e, _) => .error { code := 1, errors := [e.message, "Try --help"] }

/-- The machine, with the image of a configuration booted. -/
def boot (size : Nat) (c : Config) : Access (Except MachineError Headless) :=
  let s := Headless.make c.stateDirectory size
  match c.game with
  | some path => s.boot path
  | none => pure (.ok s)

/-- Defines watches and resolves them, without a job. -/
def startWatches {σ : Type} [Machine σ] (p : ControlPlane σ) (specs : NameMap WatchSpec) :
    Except RemoteError (ControlPlane σ) :=
  match p.define specs with
  | (.ok names, p) =>
    .ok { p with watches := p.watches.resolveNames (Machine.memory p.machine) names }
  | (.error e, _) => .error e

/-- The control plane of a configuration, ready to serve. -/
def prepare (size : Nat) (c : Config) : Access (Except Outcome (ControlPlane Headless)) := do
  match ← boot size c with
  | .error _ => return .error failure
  | .ok s =>
    let s := if c.paused then { s with runState := .paused } else s
    let p : ControlPlane Headless := { options := ⟨c.mode, c.waitTimeout⟩, machine := s }
    return (startWatches p c.watches).mapError fun _ => failure

/-- Answers a call while the machine stays paused. A wait for a frame is given up at once, since
no frame comes. -/
def answerPaused {σ : Type} [Machine σ] : Rpc.Handler (StateT (ControlPlane σ) Access) :=
  fun method params p => do
    let (progress, p) := p.call method params
    match ← ControlPlane.carryOn ControlPlane.runJobs ControlPlane.actionLimit progress p with
    | (.answered result, p) => return (result, p)
    | (.waiting pending, p) =>
      match p.giveUp pending with
      | (.answered result, p) => return (result, p)
      | (.waiting _, p) => return (.error (.job .unavailable), p)

/-- A run on the standard streams. Nothing can be listened on, so a run that is to serve on an
address fails. -/
def run (size : Nat) (lookup : String → Option String) (arguments : List String)
    (input : List UInt8) : Access Outcome := do
  match configure lookup arguments with
  | .error outcome => return outcome
  | .ok c =>
    match ← prepare size c with
    | .error outcome => return outcome
    | .ok p =>
      if c.stdio then
        let (output, _) ← Rpc.serve answerPaused input p
        return { code := 0, output := output }
      else return failure

end Program

end ConsoleLink
