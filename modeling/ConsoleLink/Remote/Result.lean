import ConsoleLink.Remote.Command
import ConsoleLink.Text.Base64
import ConsoleLink.Watch.Registry

/-! # The results of requests

The JSON values that requests are answered with.
-/

namespace ConsoleLink

namespace Result

def ok (fields : List (String × Json)) : Json := .object (("status", .text "ok") :: fields)

def port (p : Port) : String × Json := ("port", .nat p)

def queued (p : Port) : List (String × Json) := [port p, ("queued", .bool true)]

def frameCount (n : Nat) : String × Json := ("frame_count", .nat n)

def registered (names : List String) : Json := .object [("registered", .array (names.map .text))]

/-- The answer to an order about a save state. -/
def stateAction (action : String) (target : StateTarget) (fields : List (String × Json)) : Json :=
  ok ([("action", .text action), ("to", .text target.text)] ++ fields)

/-- What is told of a save state. -/
def stateInfo : Option StateInfo → List (String × Json)
  | none => [("exists", .bool false)]
  | some info =>
    [("exists", .bool true), ("frame", .number (.natural info.frame)),
     ("game", (info.game.map Json.text).getD .null)]

/-- The values of watches, or the names that have none. -/
def values (watches : Registry) (names : List String) : Except RemoteError Json :=
  match names.filter fun name => (watches.value? name).isNone with
  | [] => .ok <| .object
      [("values", .object (names.filterMap fun name =>
        (watches.value? name).map fun value => (name, .text value)))]
  | missing => Command.refuse (.unresolvedWatches missing)

def size (f : Framebuffer) : List (String × Json) :=
  [("width", .nat f.width), ("height", .nat f.height)]

/-- A picture in the answer itself. -/
def picture (f : Framebuffer) : Except RemoteError Json :=
  match Png.encode f with
  | .ok bytes => .ok <| .object <|
      [("format", .text "png"), ("data", .text (Text.Base64.encode bytes))] ++ size f
  | .error fault => .error (.image fault)

/-- Writes a picture into a file, in a directory that is made if it is not there. A faulty picture
leaves a file too. -/
def savePicture (f : Framebuffer) (path : String) : Access (Except RemoteError Json) := do
  match ← Access.ensureParent path with
  | .error e => return .error (.file e)
  | .ok () =>
    match Png.encode f with
    | .ok bytes =>
      let written ← Access.write path bytes
      return (written.mapError .file).map fun () => .object (("path", .text path) :: size f)
    | .error fault =>
      match ← Access.write path (Png.remnant f fault) with
      | .ok () => return .error (.image fault)
      | .error e => return .error (.file e)

/-- The state of a port. -/
def portStatus (input : Input) (p : Port) : Json := .object
  [port p, ("enabled", .bool (input.isEnabled p)), ("timed", .nat (input.timedLength p))]

end Result

end ConsoleLink
