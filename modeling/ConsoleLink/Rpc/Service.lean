import ConsoleLink.Remote.Error
import ConsoleLink.Rpc.Message
import ConsoleLink.Text.Lines

/-! # Answering lines

One call on a line, one answer on a line. Whoever answers calls may be any computation; a line that
is no call is answered without it.
-/

namespace ConsoleLink.Rpc

/-- Answers calls of a method with parameters. -/
abbrev Handler (m : Type → Type) := String → Json → m (Except RemoteError Json)

/-- The code for a line that is no call. -/
def parseErrorCode : Int := -32700

/-- The code for a call of another version. -/
def invalidRequestCode : Int := -32600

/-- The answer to a call that a handler has dealt with. -/
def Answer.ofResult (id : Json) : Except RemoteError Json → Answer
  | .ok result => .success id result
  | .error e => .failure id e.code e.message

variable {m : Type → Type} [Monad m]

/-- Answers the text of a call. -/
def answerText (handler : Handler m) (text : String) : m Answer :=
  match Call.decoder.decode text with
  | .error e => pure (.failure .null parseErrorCode ("Parse error: " ++ e.message))
  | .ok call =>
    if call.version = version then do
      return .ofResult call.id (← handler call.method call.params)
    else pure (.failure call.id invalidRequestCode "Invalid JSON-RPC version")

/-- Answers a line, unless it is blank. -/
def answerLine (handler : Handler m) (line : String) : m (Option String) :=
  let text := Text.trim line
  if text.isEmpty then pure none
  else do return some (← answerText handler text).line

/-- Answers what was read of a stream next, a piece with whether a line feed ended it: that of a
line, if it has one. There is nothing after the end of the stream, nor after a line that is not
UTF-8. -/
def answerNext (handler : Handler m) : Option (List UInt8 × Bool) → m (Option (Option String))
  | none => pure none
  | some (piece, ended) =>
    match Text.lineText? piece ended with
    | none => pure none
    | some line => return some (← answerLine handler line)

/-- Answers lines in turn. -/
def answerLines (handler : Handler m) : List String → m (List String)
  | [] => pure []
  | line :: lines => do
    let answer ← answerLine handler line
    return answer.toList ++ (← answerLines handler lines)

/-- Answers the lines of a stream, up to the first that is not UTF-8. -/
def serve (handler : Handler m) (input : List UInt8) : m (List String) :=
  answerLines handler (Text.readableLines input)

end ConsoleLink.Rpc
