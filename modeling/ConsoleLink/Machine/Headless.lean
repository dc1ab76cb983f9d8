import ConsoleLink.Machine.Basic
import ConsoleLink.Machine.Snapshot

/-! # The headless machine

A machine without a processor: flat RAM, and a frame that does no more than publish the frame
number and the pads in low memory and redraw a test pattern. Save states and images are files; an
order that fails leaves the machine as it was.
-/

namespace ConsoleLink

/-- The headless machine. -/
structure Headless where
  /-- The RAM, from `ramBase` up. -/
  ram : ByteArray
  runState : RunState := .running
  /-- Frames emulated since boot. -/
  frame : UInt64 := 0
  /-- The directory of the numbered save slots. -/
  stateDirectory : String
  /-- The image that was booted last. -/
  game : Option String := none
  /-- What the plugged-in pads report. -/
  live : Pads := .replicate portCount .unplugged
  /-- The pads of the last emulated frame. -/
  lastPads : Pads := .replicate portCount .neutral
  /-- The blue of the test pattern; the screen is black before the first frame. -/
  shade : Option UInt32 := none

namespace Headless

/-- The first address of RAM. -/
def ramBase : UInt32 := 0x80000000

/-- The usual size of RAM: 24 MiB. -/
def ramSize : Nat := 0x1800000

/-- Where the frame number is published, as a 32-bit word. -/
def frameCounter : UInt32 := ramBase + 0xF0

/-- Where the pads are published, four bytes for each port. -/
def mailbox : UInt32 := ramBase + 0x100

def screenWidth : Nat := 320

def screenHeight : Nat := 240

/-- Bytes of zero, added to what is there. -/
def addZeros (n : Nat) (bytes : ByteArray) : ByteArray := Nat.repeat (·.push 0) n bytes

/-- A machine that has just been switched on. -/
def make (stateDirectory : String) (size : Nat) : Headless where
  ram := addZeros size (.emptyWithCapacity size)
  stateDirectory := stateDirectory

/-! ## Memory -/

/-- Where an address is in RAM of the given size. -/
def offset? (size : Nat) (address : UInt32) : Option (Fin size) :=
  if ramBase ≤ address then
    let i := address.toNat - ramBase.toNat
    if h : i < size then some ⟨i, h⟩ else none
  else none

def byteAt (s : Headless) (address : UInt32) : UInt8 :=
  match offset? s.ram.size address with
  | some i => s.ram[i]
  | none => 0

def memory (s : Headless) : Memory where
  byteAt := s.byteAt
  isValid address := (offset? s.ram.size address).isSome

/-- Writes one byte, if the address is in RAM. -/
def setByte (ram : ByteArray) (address : UInt32) (b : UInt8) : ByteArray :=
  match offset? ram.size address with
  | some i => ram.set i b
  | none => ram

/-- Writes bytes at consecutive addresses, as far as these are in RAM. -/
def setBytes (ram : ByteArray) (address : UInt32) : List UInt8 → ByteArray
  | [] => ram
  | b :: bs => setBytes (setByte ram address b) (address + 1) bs

/-- Writes bytes into RAM. -/
def poke (s : Headless) (address : UInt32) (bytes : List UInt8) : Headless :=
  { s with ram := setBytes s.ram address bytes }

/-! ## Frames -/

/-- The bytes of a number of 32 bits, the one of most weight first. -/
def wordBytes (n : UInt32) : List UInt8 :=
  [(n >>> 24).toUInt8, (n >>> 16).toUInt8, (n >>> 8).toUInt8, n.toUInt8]

/-- What is published of a pad. -/
def mailBytes (p : Pad) : List UInt8 :=
  [(p.buttons >>> 8).toUInt8, p.buttons.toUInt8, p.stick.x, p.stick.y]

/-- Publishes the frame number and the pads. -/
def publish (ram : ByteArray) (frame : UInt64) (pads : Pads) : ByteArray :=
  (List.finRange portCount).foldl
    (fun ram (port : Port) =>
      setBytes ram (mailbox + UInt32.ofNat (4 * port)) (mailBytes pads[port]))
    (setBytes ram frameCounter (wordBytes frame.toUInt32))

/-- The blue of the test pattern: the low bits of the frame number, turned over by those of the
first pad's buttons. -/
def shadeOf (frame : UInt64) (pads : Pads) : UInt32 :=
  (frame &&& 0xFF).toUInt32 ^^^ (pads[0].buttons &&& 0xFF).toUInt32

/-- The number of the frame after this one. There is none after the largest number: counting it
overflows, which panics. -/
def nextNumber? (frame : UInt64) : Option UInt64 :=
  if frame.toNat + 1 < UInt64.size then some (frame + 1) else none

/-- The machine once it has emulated a frame of this number. -/
def atFrame (frame : UInt64) (pads : Pads) (s : Headless) : Headless :=
  { s with
    frame := frame
    lastPads := pads
    ram := publish s.ram frame pads
    shade := some (shadeOf frame pads) }

/-- Emulates one frame. The number is counted before anything else is done. -/
def runFrame (pads : Pads) (s : Headless) : Option Headless :=
  (nextNumber? s.frame).map fun frame => s.atFrame frame pads

/-- A colour of the test pattern: red grows to the right, green downwards. -/
def patternPixel (shade : UInt32) (i : Nat) : UInt32 :=
  let red := UInt32.ofNat (i % screenWidth * 255 / screenWidth)
  let green := UInt32.ofNat (i / screenWidth * 255 / screenHeight)
  red <<< 16 ||| green <<< 8 ||| shade

/-- The last completed frame. -/
def screen (s : Headless) : Framebuffer where
  width := screenWidth
  height := screenHeight
  pixels := match s.shade with
    | some shade => (Array.range (screenWidth * screenHeight)).map (patternPixel shade)
    | none => .replicate (screenWidth * screenHeight) 0

/-! ## Orders -/

/-- The file of a save state. -/
def statePath (s : Headless) : StateTarget → String
  | .slot n =>
    Path.join s.stateDirectory
      ("slot_" ++ String.ofList (Text.decimalPadded 2 n) ++ ".state")
  | .file path => path

/-- What a save state would hold now. -/
def snapshot (s : Headless) : Snapshot := ⟨s.frame, s.game, s.ram⟩

/-- Writes a save state, in a directory that is made if it is not there. -/
def save (s : Headless) (target : StateTarget) : Access (Except MachineError Unit) := do
  let path := s.statePath target
  match ← Access.ensureParent path with
  | .error e => return .error (.file e)
  | .ok () => return (← Access.write path s.snapshot.encode).mapError .file

/-- Reads a save state; `none` if there is no such file. -/
def readSnapshot (s : Headless) (target : StateTarget) :
    Access (Except MachineError (Option Snapshot)) := do
  match ← Access.read (s.statePath target) with
  | .ok bytes =>
    match Snapshot.decode? bytes with
    | some snapshot => return .ok (some snapshot)
    | none => return .error .undecodable
  | .error e => return if e.isMissing then .ok none else .error (.file e)

/-- The error for a save state that is not there. -/
def absent : StateTarget → MachineError
  | .slot n => .emptySlot n
  | .file path => .missing path

/-- The machine with a save state installed, if that holds RAM of the right size. -/
def install (s : Headless) (saved : Snapshot) : Except MachineError Headless :=
  if saved.ram.size = s.ram.size then
    .ok { s with ram := saved.ram, frame := saved.frame, game := saved.game }
  else .error (.wrongRamSize saved.ram.size s.ram.size)

/-- Restores a save state. -/
def load (s : Headless) (target : StateTarget) : Access (Except MachineError Headless) := do
  match ← s.readSnapshot target with
  | .error e => return .error e
  | .ok none => return .error (absent target)
  | .ok (some saved) => return s.install saved

/-- Describes a save state; `none` if there is none. -/
def describe (s : Headless) (target : StateTarget) :
    Access (Except MachineError (Option StateInfo)) := do
  return (← s.readSnapshot target).map (·.map fun saved => ⟨saved.frame, saved.game⟩)

/-- RAM that holds an image, as far as it fits, and zeros after it. -/
def imageRam (size : Nat) (image : ByteArray) : ByteArray :=
  addZeros (size - image.size) (image.extract 0 size)

/-- The machine with an image loaded and started. -/
def start (s : Headless) (path : String) (image : ByteArray) : Headless :=
  { s with
    ram := imageRam s.ram.size image
    frame := 0
    game := some path
    runState := .running }

/-- Loads an image and starts it. -/
def boot (s : Headless) (path : String) : Access (Except MachineError Headless) := do
  match ← Access.read path with
  | .error e => return .error (.file e)
  | .ok image =>
    if image.isEmpty then return .error (.emptyImage path)
    else return .ok (s.start path image)

/-- Sets what the plugged-in pad of a port reports. -/
def setLive (s : Headless) (port : Port) (pad : Pad) : Headless :=
  { s with live := s.live.set port pad }

/-- The outcome of an order that changes the machine if it succeeds. -/
def changed (s : Headless) : Except MachineError Headless → Except JobError Reply × Headless
  | .ok s => (.ok .done, s)
  | .error e => (.error e.toJobError, s)

/-- Obeys an order. -/
def obey (order : Order) (s : Headless) : Access (Except JobError Reply × Headless) := do
  match order with
  | .boot path => return s.changed (← s.boot path)
  | .save target => do
    let saved ← s.save target
    return ((saved.map fun _ => .done).mapError MachineError.toJobError, s)
  | .load target => return s.changed (← s.load target)
  | .describe target =>
    return (((← s.describe target).map .stateInfo).mapError MachineError.toJobError, s)
  | .setRunState state => return (.ok .done, { s with runState := state })
  | .reportRunState => return (.ok (.runState s.runState), s)
  | .grabFrame => return (.ok (.frame (some s.screen)), s)

instance : Machine Headless where
  memory := memory
  runState := Headless.runState
  livePad s port := s.live[port]
  runFrame := runFrame
  obey := obey

end Headless

end ConsoleLink
