import ConsoleLink.Mode
import ConsoleLink.Watch.Definition

/-! # Configuration

Defaults, over which the environment goes, over which the arguments of the command line go.
Arguments are read from the left; a flag that takes a value takes the argument after it, whatever
that is.
-/

namespace ConsoleLink

/-- What can be wrong with the environment or the arguments. -/
inductive ConfigError where
  | invalidMode (text : String)
  | invalidNumber (name value : String)
  | invalidWatches (e : Json.Error)
  | missingValue (flag : String)
  | unknownArgument (argument : String)
  deriving DecidableEq

/-- The environment variables that count. -/
inductive Variable where
  | mode
  | watches
  | listen
  | stateDirectory
  | waitTimeout
  deriving DecidableEq

def Variable.name : Variable → String
  | .mode => "MODE"
  | .watches => "MEMWATCHES"
  | .listen => "EMU_REMOTE_LISTEN"
  | .stateDirectory => "EMU_REMOTE_STATE_DIR"
  | .waitTimeout => "EMU_REMOTE_WAIT_TIMEOUT_MS"

def ConfigError.message : ConfigError → String
  | .invalidMode text => "invalid mode '" ++ text ++ "' (expected real-time or turn-based)"
  | .invalidNumber name value => "invalid value '" ++ value ++ "' for " ++ name
  | .invalidWatches e => "invalid " ++ Variable.watches.name ++ ": " ++ e.message
  | .missingValue flag => "missing value for " ++ flag
  | .unknownArgument argument => "unknown argument: " ++ argument

/-- How the program is to run. -/
structure Config where
  /-- The address to listen on. -/
  listen : String := "127.0.0.1:58111"
  /-- Whether to serve on the standard streams instead. -/
  stdio : Bool := false
  /-- The image to boot before serving. -/
  game : Option String := none
  /-- The directory of the numbered save slots. -/
  stateDirectory : String := "states"
  paused : Bool := false
  mode : Mode := .realTime
  /-- The watches to define at the start. -/
  watches : NameMap WatchSpec := []
  /-- The milliseconds after which a request waits no longer. -/
  waitTimeout : Option Nat := none
  /-- Frames per second; zero does not hold frames back. -/
  fps : Nat := 60

namespace Config

/-! ## Values -/

def readMode (text : String) : Except ConfigError Mode :=
  match Mode.ofText? text with
  | some mode => .ok mode
  | none => .error (.invalidMode text)

/-- Reads a number below `limit`; `name` is what the value is for. -/
def readNumber (limit : Nat) (name value : String) : Except ConfigError Nat :=
  match Text.unsigned? 10 limit (Text.trimChars value.toList) with
  | some n => .ok n
  | none => .error (.invalidNumber name value)

/-- Reads watches by name. -/
def readWatches (text : String) : Except ConfigError (NameMap WatchSpec) :=
  (WatchSpec.decoder.nameMap.decode text).mapError .invalidWatches

/-- Frame duration in nanoseconds, rounded down. -/
def frameNanoseconds (c : Config) : Nat := 1000000000 / c.fps

/-! ## The environment -/

/-- The defaults with the environment over them. Watches that are blank count as not set. -/
def ofEnvironment (lookup : String → Option String) : Except ConfigError Config := do
  let get (v : Variable) := lookup v.name
  let mode ← (get .mode).mapM readMode
  let watches ← ((get .watches).filter fun text => !(Text.trim text).isEmpty).mapM readWatches
  let waitTimeout ← (get .waitTimeout).mapM (readNumber UInt64.size Variable.waitTimeout.name)
  let c : Config := {}
  return { c with
    mode := mode.getD c.mode
    watches := watches.getD c.watches
    listen := (get .listen).getD c.listen
    stateDirectory := (get .stateDirectory).getD c.stateDirectory
    waitTimeout := waitTimeout <|> c.waitTimeout }

/-! ## Arguments -/

/-- A flag that switches something on. -/
inductive Switch where
  | stdio
  | paused
  deriving DecidableEq

/-- A flag that takes a value. -/
inductive Setting where
  | listen
  | game
  | stateDirectory
  | mode
  | waitTimeout
  | fps
  deriving DecidableEq

/-- A flag. -/
inductive Flag where
  | switch (s : Switch)
  | setting (s : Setting)
  | help
  deriving DecidableEq

/-- The flag of an argument. -/
def Flag.ofText? : String → Option Flag
  | "--listen" => some (.setting .listen)
  | "--stdio" => some (.switch .stdio)
  | "--game" => some (.setting .game)
  | "--state-dir" => some (.setting .stateDirectory)
  | "--paused" => some (.switch .paused)
  | "--mode" => some (.setting .mode)
  | "--wait-timeout-ms" => some (.setting .waitTimeout)
  | "--fps" => some (.setting .fps)
  | "--help" => some .help
  | "-h" => some .help
  | _ => none

def turnOn (c : Config) : Switch → Config
  | .stdio => { c with stdio := true }
  | .paused => { c with paused := true }

/-- Gives a setting the value that follows its flag. -/
def assign (c : Config) (flag value : String) : Setting → Except ConfigError Config
  | .listen => .ok { c with listen := value }
  | .game => .ok { c with game := some value }
  | .stateDirectory => .ok { c with stateDirectory := value }
  | .mode => do return { c with mode := ← readMode value }
  | .waitTimeout => do return { c with waitTimeout := some (← readNumber UInt64.size flag value) }
  | .fps => do return { c with fps := ← readNumber UInt32.size flag value }

/-- What to do once the arguments are read. -/
inductive Action where
  | run
  | help
  deriving DecidableEq

/-- Lays arguments over a configuration, up to the first that is wrong or asks for help. -/
def applyArguments (c : Config) : List String → Except ConfigError Action × Config
  | [] => (.ok .run, c)
  | flag :: rest =>
    match Flag.ofText? flag with
    | none => (.error (.unknownArgument flag), c)
    | some .help => (.ok .help, c)
    | some (.switch s) => (c.turnOn s).applyArguments rest
    | some (.setting s) =>
      match rest with
      | [] => (.error (.missingValue flag), c)
      | value :: rest =>
        match c.assign flag value s with
        | .ok c => c.applyArguments rest
        | .error e => (.error e, c)

/-- How the program is used. -/
def usage : List String :=
  let c : Config := {}
  ["Usage: emu-remote [OPTIONS]",
   "",
   "Options:",
   "  --listen <addr>          TCP listen address [default: " ++ c.listen ++ "]",
   "  --stdio                  Serve JSON-RPC on stdin/stdout instead of TCP",
   "  --game <file>            Boot this image before serving",
   "  --state-dir <dir>        Directory for numbered save slots [default: " ++
     c.stateDirectory ++ "]",
   "  --paused                 Start paused",
   "  --mode <mode>            real-time or turn-based [default: " ++ c.mode.text ++ "]",
   "  --wait-timeout-ms <ms>   Give up on blocking waits after this long",
   "  --fps <n>                Frame rate, 0 for unthrottled [default: " ++
     Text.decimalText c.fps ++ "]",
   "",
   "Environment:",
   "  " ++ Variable.mode.name ++ "                     Same as --mode",
   "  " ++ Variable.watches.name ++
     "               JSON object of watches to register at startup",
   "  " ++ Variable.listen.name ++ "        Same as --listen",
   "  " ++ Variable.stateDirectory.name ++ "     Same as --state-dir",
   "  " ++ Variable.waitTimeout.name ++ " Same as --wait-timeout-ms",
   "  RUST_LOG                 Log filter [default: info]"]

end Config

end ConsoleLink
