import ConsoleLink.Program
import Std.Async.DNS
import Std.Async.TCP
import Std.Sync.Mutex

/-! # The command line

Serves a headless machine on the standard streams or to clients that connect. The simulation steps
the machine on the main thread; each client has a thread of its own. They share the control plane
under a lock, which is held for one action at a time.
-/

namespace ConsoleLink.Serving

open Std.Async

/-! ## Files -/

/-- The number and the wording that the operating system gives an error. -/
def systemError? : IO.Error → Option (UInt32 × String)
  | .alreadyExists _ code text | .invalidArgument _ code text
  | .permissionDenied _ code text | .resourceExhausted _ code text
  | .inappropriateType _ code text | .noSuchThing _ code text
  | .interrupted _ code text | .noFileOrDirectory _ code text
  | .otherError code text | .resourceBusy code text | .resourceVanished code text
  | .unsupportedOperation code text | .hardwareFault code text
  | .unsatisfiedConstraints code text | .illegalOperation code text
  | .protocolError code text | .timeExpired code text => some (code, text)
  | .unexpectedEof | .userError _ => none

/-- Why an access to a file failed. An error number may come with its sign turned over. -/
def fileError (e : IO.Error) : FileError :=
  match systemError? e with
  | some (code, text) =>
    match min code (-code) with
    | 2 => .system .noEntry
    | 17 => .system .fileExists
    | 20 => .system .notDirectory
    | 21 => .system .isDirectory
    | 36 => .system .nameTooLong
    | number => .other (text ++ " (os error " ++ Text.decimalText number.toNat ++ ")")
  | none => .other (toString e)

/-- Tries an access to the file at a path. -/
def attempt {α : Type} (path : String) (access : IO α) : IO (Except FileError α) := do
  if path.toList.contains (Char.ofNat 0) then return .error .zeroCharacter
  else
    try return .ok (← access)
    catch e => return .error (fileError e)

/-- Whether there is a directory at a path: it cannot be read as a file. -/
def isDirectory (path : String) : IO Bool := do
  match ← attempt path (IO.FS.readBinFile path) with
  | .error (.system .isDirectory) => return true
  | _ => return false

/-- Makes the first of these directories, after making those that it needs, which follow it. -/
def makeChain : List String → IO (Except FileError Unit)
  | [] => return .ok ()
  | path :: above => do
    let unlessThere (made : Except FileError Unit) : IO (Except FileError Unit) := do
      if made matches .error _ then if ← isDirectory path then return .ok ()
      return made
    match ← attempt path (IO.FS.createDir path) with
    | .ok () => return .ok ()
    | .error e =>
      if e.isMissing then
        match ← makeChain above with
        | .error e => return .error e
        | .ok () => unlessThere (← attempt path (IO.FS.createDir path))
      else unlessThere (.error e)

/-- Runs accesses on the files of the system. -/
def perform {α : Type} : Access α → IO α
  | .done a => pure a
  | .readFile path next => do perform (next (← attempt path (IO.FS.readBinFile path)))
  | .writeFile path bytes next => do
    perform (next (← attempt path (IO.FS.writeBinFile path bytes)))
  | .makeDirectories path next => do
    perform (next (← makeChain (if path.isEmpty then [] else path :: Path.parents path)))

/-! ## The shared control plane -/

/-- What the threads share. -/
structure Shared where
  plane : Std.Mutex (ControlPlane Headless)
  options : Options
  /-- Whether the simulation is to stop. -/
  stopping : IO.Ref Bool

namespace Shared

/-- What is under the lock while the control plane is at work. -/
def vacant : ControlPlane Headless := { machine := Headless.make "" 0 }

/-- Takes one action on the control plane. -/
def act {α : Type} (s : Shared)
    (action : ControlPlane Headless → Access (α × ControlPlane Headless)) : IO α :=
  s.plane.atomically do
    let p ← modifyGet fun p => (p, vacant)
    let (a, p) ← perform (action p)
    set p
    return a

/-- Carries a request on until it is answered; it gives up a wait at the deadline. -/
partial def settle (s : Shared) (deadline : Option Nat) :
    Progress → IO (Except RemoteError Json)
  | .answered result => return result
  | .waiting pending => do
    match ← s.act fun p => p.resume pending with
    | .answered result => return result
    | .waiting pending =>
      if deadline.any (· ≤ (← IO.monoMsNow)) then
        s.settle deadline (← s.act fun p => pure (p.giveUp pending))
      else
        IO.sleep 1
        s.settle deadline (.waiting pending)

/-- Answers a call. -/
def answer (s : Shared) : Rpc.Handler IO := fun method params => do
  let now ← IO.monoMsNow
  let progress ← s.act fun p => pure (p.call method params)
  s.settle (s.options.waitTimeout.map (now + ·)) progress

/-- Steps the machine until it is to stop, a frame every so many nanoseconds; whether it came to
that, and no frame panicked. -/
partial def simulate (s : Shared) (frameTime due : Nat) : IO Bool := do
  if ← s.stopping.get then
    s.act fun p => do return ((), ← p.finish)
    return true
  match ← s.act ControlPlane.step with
  | none => return false
  | some true =>
    let due := due + frameTime
    let now ← IO.monoNanosNow
    if now < due then
      IO.sleep (UInt32.ofNat ((due - now) / 1000000))
      s.simulate frameTime due
    else s.simulate frameTime now
  | some false =>
    IO.sleep 2
    s.simulate frameTime (← IO.monoNanosNow)

end Shared

/-! ## Transports -/

/-- Reads bytes up to a line feed or the end, which comes after the last byte. -/
partial def readPiece (next : IO (Option UInt8)) (piece : List UInt8) :
    IO (Option (List UInt8 × Bool)) := do
  match ← next with
  | none => return if piece.isEmpty then none else some (piece.reverse, false)
  | some 10 => return some (piece.reverse, true)
  | some b => readPiece next (b :: piece)

/-- Answers the lines of a stream, up to the first that is not UTF-8. -/
partial def serveStream (handler : Rpc.Handler IO) (next : IO (Option UInt8))
    (write : String → IO Unit) : IO Unit := do
  match ← Rpc.answerNext handler (← readPiece next []) with
  | none => return
  | some answer? =>
    if let some answer := answer? then write (answer ++ "\n")
    serveStream handler next write

/-- Serves on the standard streams. The simulation stops when they end. -/
def serveStandard (s : Shared) : IO Unit := do
  let input ← IO.getStdin
  let output ← IO.getStdout
  try
    serveStream s.answer (do return (← input.read 1)[0]?) fun line => do
      output.putStr line
      output.flush
  finally s.stopping.set true

/-- Serves a client. -/
def serveClient (s : Shared) (client : TCP.Socket.Client) : IO Unit := do
  let arrived ← IO.mkRef (ByteArray.empty, 0)
  let next : IO (Option UInt8) := do
    let (bytes, place) ← arrived.get
    match bytes[place]? with
    | some b =>
      arrived.set (bytes, place + 1)
      return some b
    | none =>
      let bytes := ((← (client.recv? 65536).block)).getD .empty
      arrived.set (bytes, 1)
      return bytes[0]?
  serveStream s.answer next fun line => (client.send line.toUTF8).block

/-- Accepts clients for ever. -/
partial def acceptClients (s : Shared) (server : TCP.Socket.Server) : IO Unit := do
  try
    let client ← (server.accept).block
    let _ ← IO.asTask (serveClient s client) .dedicated
  catch _ => IO.sleep 20
  acceptClients s server

/-- The address that a host and a port stand for. -/
def resolveAddress (text : String) : IO Std.Net.SocketAddress := do
  let pieces := Text.splitOn (· == ':') text.toList
  let host := String.ofList (List.intercalate [':'] pieces.dropLast)
  match Text.unsigned? 10 UInt16.size (pieces.getLast?.getD []) with
  | none => throw (.userError "invalid socket address")
  | some port =>
    let found : Array Std.Net.IPAddr ← (DNS.getAddrInfo host "").block
    match found[0]? with
    | some (Std.Net.IPAddr.v4 address) => return .v4 ⟨address, UInt16.ofNat port⟩
    | some (Std.Net.IPAddr.v6 address) => return .v6 ⟨address, UInt16.ofNat port⟩
    | none => throw (.userError "unknown host")

/-- A server that listens on an address. -/
def listen (address : String) : IO TCP.Socket.Server := do
  let server ← TCP.Socket.Server.mk
  server.bind (← resolveAddress address)
  server.listen 128
  return server

/-- Starts to serve; whether it could. -/
def start (s : Shared) (c : Config) : IO Bool := do
  if c.stdio then
    let _ ← IO.asTask (serveStandard s) .dedicated
    return true
  else
    try
      let server ← listen c.listen
      let _ ← IO.asTask (acceptClients s server) .dedicated
      return true
    catch _ => return false

/-- Prints what a run leaves behind. -/
def conclude (outcome : Outcome) : IO UInt32 := do
  outcome.output.forM fun line => IO.println line
  outcome.errors.forM fun line => IO.eprintln line
  return outcome.code

/-- The environment variables that count. -/
def readEnvironment : IO (String → Option String) := do
  let counted : List Variable := [.mode, .watches, .listen, .stateDirectory, .waitTimeout]
  let values ← counted.mapM fun v => do return (v.name, ← IO.getEnv v.name)
  return fun name => (values.lookup name).join

end ConsoleLink.Serving

open ConsoleLink ConsoleLink.Serving in
def main (arguments : List String) : IO UInt32 := do
  match Program.configure (← readEnvironment) arguments with
  | .error outcome => conclude outcome
  | .ok c =>
    match ← perform (Program.prepare Headless.ramSize c) with
    | .error outcome => conclude outcome
    | .ok p =>
      let s : Shared := ⟨← Std.Mutex.new p, p.options, ← IO.mkRef false⟩
      if ← start s c then
        let stopped ← s.simulate c.frameNanoseconds (← IO.monoNanosNow)
        conclude (if stopped then {} else Program.panic)
      else conclude Program.failure
