import ConsoleLink.Disk.Access
import ConsoleLink.Image.Framebuffer
import ConsoleLink.Jobs
import ConsoleLink.Json.Decoder
import ConsoleLink.Memory
import ConsoleLink.Pad.Input

/-! # Frame-stepped machines

What the control plane needs of a machine: memory to watch, a run state, the pads that are plugged
in, a step of one frame, and obedience to orders. An order may access files; whether it succeeds or
not, it leaves a machine and an answer. A frame may panic, and then there is no answer.
-/

namespace ConsoleLink

/-- Whether a machine advances frames. -/
inductive RunState where
  | running
  | paused
  deriving DecidableEq

namespace RunState

def text : RunState → String
  | .running => "running"
  | .paused => "paused"

def all : List RunState := [.running, .paused]

def ofText? (name : String) : Option RunState := all.find? fun s => s.text = name

open Json (misshaped)

/-- The run state of a name. -/
def ofName (name : String) : Except Json.Error RunState :=
  match ofText? name with
  | some s => .ok s
  | none => misshaped (.unknownVariant name (all.map text))

/-- The run state that a value is: its name, or an object that has `null` under it. -/
def ofJson : Json → Except Json.Error RunState
  | .text name => ofName name
  | .members [(name, content)] => do
    let s ← ofName name
    match content with
    | .null => return s
    | v => Json.mistyped "unit" v
  | .members _ => misshaped (.wrongValue .map "map with a single key")
  | v => Json.mistyped "string or map" v

def toJson (s : RunState) : Json := .text s.text

end RunState

/-- How many numbered save slots there are. -/
def slotCount : Nat := 100

/-- Where a save state is. -/
inductive StateTarget where
  | slot (number : Fin slotCount)
  | file (path : String)
  deriving DecidableEq

namespace StateTarget

/-- The slot of a number, if there is one. -/
def slot? (number : Nat) : Option StateTarget :=
  if h : number < slotCount then some (.slot ⟨number, h⟩) else none

def text : StateTarget → String
  | .slot n => "slot " ++ Text.decimalText n
  | .file path => path

end StateTarget

/-- What a save state says of itself. -/
structure StateInfo where
  /-- Frames emulated since boot. -/
  frame : UInt64
  /-- The image that was running. -/
  game : Option String
  deriving DecidableEq

/-- Why a machine does not do what it is told. -/
inductive MachineError where
  | file (e : FileError)
  /-- No save state at a path. -/
  | missing (path : String)
  | emptySlot (number : Fin slotCount)
  | undecodable
  | wrongRamSize (saved own : Nat)
  | emptyImage (path : String)
  deriving DecidableEq

def MachineError.message : MachineError → String
  | .file e => "I/O error: " ++ e.message
  | .missing path => "I/O error: " ++ path ++ " not found"
  | .emptySlot n => "no save state in slot " ++ Text.decimalText n
  | .undecodable => "invalid save state: <decode error>"
  | .wrongRamSize saved own =>
    "invalid save state: RAM size " ++ Text.decimalText saved ++
      " does not match machine RAM size " ++ Text.decimalText own
  | .emptyImage path => "boot failed: " ++ path ++ " is empty"

/-- The failure of a job whose machine refused. -/
def MachineError.toJobError (e : MachineError) : JobError := .failed e.message

/-- What a machine can be told. -/
inductive Order where
  /-- Load an image and start it. -/
  | boot (path : String)
  | save (target : StateTarget)
  | load (target : StateTarget)
  /-- Describe a save state without loading it. -/
  | describe (target : StateTarget)
  | setRunState (state : RunState)
  | reportRunState
  /-- Copy the last completed frame. -/
  | grabFrame
  deriving DecidableEq

/-- What a machine answers. -/
inductive Reply where
  | done
  /-- `none` if nothing has been saved there. -/
  | stateInfo (info : Option StateInfo)
  | runState (state : RunState)
  /-- `none` without video. -/
  | frame (frame : Option Framebuffer)

/-- Pad states for every port. -/
abbrev Pads := Vector Pad portCount

/-- A frame-stepped machine. -/
class Machine (σ : Type) where
  memory : σ → Memory
  runState : σ → RunState
  /-- What the plugged-in pad of a port reports. -/
  livePad : σ → Port → Pad
  /-- Emulates one frame with the given pads; `none` if the machine panics, which leaves it as it
  was. -/
  runFrame : Pads → σ → Option σ
  /-- Obeys an order. -/
  obey : Order → σ → Access (Except JobError Reply × σ)

end ConsoleLink
