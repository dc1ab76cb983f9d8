import ConsoleLink.Pad.Command
import ConsoleLink.Remote.Error
import ConsoleLink.Watch.Definition

/-! # What clients ask for

A call names a method and carries parameters. `Command.ofCall` reads the command that a call stands
for, or finds what is wrong with the call; it needs nothing but the call itself, so a call that is
malformed has no effect.
-/

namespace ConsoleLink

/-- A well-formed request. -/
inductive Command where
  /-- Replace the latch of a port. -/
  | latch (port : Port) (pad : Pad)
  /-- Lay an overlay over a port. -/
  | hold (port : Port) (overlay : Overlay)
  /-- Switch remote input on or off. -/
  | enable (port : Port) (enabled : Bool)
  | defineWatches (definitions : List (String × WatchDescriptor))
  | readWatches (names : List String)
  | boot (path : String)
  | save (target : StateTarget)
  | load (target : StateTarget)
  | describe (target : StateTarget)
  | setRunState (state : RunState)
  /-- Take a picture, into a file if a path is given. -/
  | screenshot (path : Option String)
  | waitFrames (frames : Nat)
  | status

namespace Command

/-- The refusal of parameters. -/
def refuse {α : Type} (fault : ParamFault) : Except RemoteError α :=
  .error (.invalidParams fault)

/-- A text that has to be among the parameters. -/
def requiredText (params : Json) (key : String) : Except RemoteError String :=
  match (params.member? key).bind Json.asText? with
  | some s => .ok s
  | none => refuse (.missingField key)

/-! ## Pads -/

/-- The number that a port is given as: a number, or a text that writes one. -/
def portNumber? : Json → Option Nat
  | .number n => n.toNat?
  | .text s => Text.unsigned? 10 UInt64.size (Text.trimChars s.toList)
  | _ => none

/-- The port among the parameters. -/
def portOf (params : Json) : Except RemoteError Port :=
  match (params.member? "port").bind portNumber? with
  | some n => if h : n < portCount then .ok ⟨n, h⟩ else refuse .badPort
  | none => refuse .badPort

/-- The command that pad parameters stand for. -/
def ofPadCommand (port : Port) (c : PadCommand) : Command :=
  match c.overlay? with
  | some overlay => .hold port overlay
  | none => .latch port c.toPad

def controller (params : Json) : Except RemoteError Command := do
  let port ← portOf params
  if (params.member? "buttons").isNone then refuse (.missingField "buttons")
  else match PadCommand.decoder.ofValue params with
    | .ok c => return ofPadCommand port c
    | .error e => refuse (.badPayload e)

def controllerEnable (params : Json) : Except RemoteError Command := do
  let port ← portOf params
  match (params.member? "enabled").bind Json.asBool? with
  | some enabled => return .enable port enabled
  | none => refuse (.missingField "enabled")

/-! ## Watches -/

/-- Whether a list of names separated by commas can hold a name. -/
def isLookupName (name : String) : Bool :=
  !name.isEmpty && !name.toList.contains ',' && Text.trim name == name

/-- The definition that a name and a wire form stand for. -/
def definition (name : String) (spec : WatchSpec) :
    Except RemoteError (String × WatchDescriptor) :=
  if isLookupName name then
    match WatchDescriptor.ofSpec spec with
    | .ok d => .ok (name, d)
    | .error e => refuse (.badWatch name e)
  else refuse (.badWatchName name)

/-- The definitions that wire forms stand for, or the first fault among them. -/
def definitions (specs : NameMap WatchSpec) :
    Except RemoteError (List (String × WatchDescriptor)) :=
  specs.mapM fun e => definition e.1 e.2

/-- The wire form of a watch among the parameters. -/
def specOf (name : String) (v : Json) : Except RemoteError (String × WatchSpec) :=
  match ["address", "size"].find? fun key => (v.member? key).isNone with
  | some key => refuse (.incompleteWatch key name)
  | none =>
    match WatchSpec.decoder.ofValue v with
    | .ok spec => .ok (name, spec)
    | .error e => refuse (.misshapenWatch name e)

def memwatch (params : Json) : Except RemoteError Command :=
  match (params.member? "watches").getD params with
  | .members [] => refuse .noWatches
  | .members entries => do
    let specs ← entries.mapM fun e => specOf e.1 e.2
    return .defineWatches (← definitions specs)
  | _ => refuse .watchesNotObject

/-- The names between commas, without the blanks around them; empty ones do not count. -/
def listedNames (text : String) : List String :=
  (((Text.splitOn (· == ',') text.toList).map Text.trimChars).filter fun n => !n.isEmpty).map
    String.ofList

def memwatchValues (params : Json) : Except RemoteError Command := do
  match listedNames (← requiredText params "names") with
  | [] => refuse .noWatchNames
  | names => return .readWatches names

/-! ## The machine -/

/-- The save state among the parameters. -/
def targetOf (params : Json) : Except RemoteError StateTarget :=
  match params.member? "to" with
  | some (.number n) =>
    match n.toNat?.bind StateTarget.slot? with
    | some slot => .ok slot
    | none => refuse .badSlot
  | some (.text s) => if (Text.trim s).isEmpty then refuse .badTarget else .ok (.file s)
  | some _ => refuse .badTarget
  | none => refuse (.missingField "to")

def saveState (params : Json) : Except RemoteError Command := do
  let action ← requiredText params "action"
  let target ← targetOf params
  match action with
  | "save" => return .save target
  | "load" => return .load target
  | "info" => return .describe target
  | _ => refuse .badStateAction

def emulation (params : Json) : Except RemoteError Command := do
  match ← requiredText params "action" with
  | "pause" => return .setRunState .paused
  | "play" => return .setRunState .running
  | _ => refuse .badRunAction

def bootImage (params : Json) : Except RemoteError Command := do
  return .boot (← requiredText params "game_path")

def wait (params : Json) : Except RemoteError Command :=
  match (params.member? "frames").bind Json.asNat? with
  | some frames => .ok (.waitFrames frames)
  | none => refuse (.missingField "frames")

/-- The command that a call stands for. -/
def ofCall (method : String) (params : Json) : Except RemoteError Command :=
  match method with
  | "controller" => controller params
  | "controller_enable" => controllerEnable params
  | "memwatch" => memwatch params
  | "memwatch_values" => memwatchValues params
  | "save_state" => saveState params
  | "emulation" => emulation params
  | "boot" => bootImage params
  | "screenshot" => .ok (.screenshot ((params.member? "path").bind Json.asText?))
  | "wait_frames" => wait params
  | "status" => .ok .status
  | other => .error (.unknownMethod other)

end Command

end ConsoleLink
