import ConsoleLink.Barrier
import ConsoleLink.Disk.Basic
import ConsoleLink.Image.Png
import ConsoleLink.Jobs
import ConsoleLink.Json.Error
import ConsoleLink.Machine.Basic
import ConsoleLink.Watch.Notation

/-! # What a request can fail with

A request that is malformed is the client's fault, everything else is the server's; the code of an
error says which. Wording is in the `message` functions only.
-/

namespace ConsoleLink

/-- What is wrong with the parameters of a request. -/
inductive ParamFault where
  | badPort
  | missingField (key : String)
  | badPayload (e : Json.Error)
  | watchesNotObject
  | noWatches
  /-- A watch without its address or size. -/
  | incompleteWatch (key name : String)
  /-- A watch that is not of the right shape. -/
  | misshapenWatch (name : String) (e : Json.Error)
  /-- A name that could not be looked up. -/
  | badWatchName (name : String)
  | badWatch (name : String) (e : WatchError)
  | noWatchNames
  | unresolvedWatches (names : List String)
  | badSlot
  | badTarget
  | badStateAction
  | badRunAction
  | other (text : String)
  deriving DecidableEq

def ParamFault.message : ParamFault → String
  | .badPort => "Invalid controller port. Must be 0-3"
  | .missingField key => "Missing required field '" ++ key ++ "'"
  | .badPayload e => "Invalid controller payload: " ++ e.message
  | .watchesNotObject => "Expected an object of memory watches"
  | .noWatches => "No memory watches given"
  | .incompleteWatch key name => "Missing '" ++ key ++ "' for memory watch '" ++ name ++ "'"
  | .misshapenWatch name e => "Invalid memory watch '" ++ name ++ "': " ++ e.message
  | .badWatchName name => "Invalid watch name '" ++ name ++ "'"
  | .badWatch name e => "Invalid memory watch '" ++ name ++ "': " ++ e.message
  | .noWatchNames => "No watch names given"
  | .unresolvedWatches names => "Unknown or unresolved memory watch: " ++ ", ".intercalate names
  | .badSlot => "Slot must be 0-99"
  | .badTarget => "'to' must be a slot number or a file path"
  | .badStateAction => "Invalid action. Must be 'save', 'load' or 'info'"
  | .badRunAction => "Invalid action. Must be 'pause' or 'play'"
  | .other text => text

/-- Everything a request can fail with. -/
inductive RemoteError where
  | invalidParams (fault : ParamFault)
  | unknownMethod (name : String)
  | watch (e : WatchError)
  | job (e : JobError)
  | wait (e : WaitError)
  | unavailable (text : String)
  | file (e : FileError)
  | image (fault : Png.Fault)
  deriving DecidableEq

namespace RemoteError

def message : RemoteError → String
  | .invalidParams fault => fault.message
  | .unknownMethod name => "Unknown method: " ++ name
  | .watch e => "Invalid memory watch: " ++ e.message
  | .job e => e.message
  | .wait e => e.message
  | .unavailable text => text
  | .file e => "I/O error: " ++ e.message
  | .image fault => "PNG encode error: " ++ fault.message

/-- The code for malformed parameters. -/
def invalidParamsCode : Int := -32602

/-- The code for a method that there is not. -/
def unknownMethodCode : Int := -32601

/-- The code for everything that is not the client's fault. -/
def serverCode : Int := -32000

/-- The error code of the protocol. -/
def code : RemoteError → Int
  | .invalidParams _ => invalidParamsCode
  | .watch _ => invalidParamsCode
  | .wait .zeroFrames => invalidParamsCode
  | .unknownMethod _ => unknownMethodCode
  | _ => serverCode

/-- Whether the request was malformed. -/
def isClientError (e : RemoteError) : Bool := e.code != serverCode

end RemoteError

end ConsoleLink
