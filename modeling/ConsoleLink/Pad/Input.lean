import ConsoleLink.Pad.Basic

/-! # Remote input to the pad ports

Each port has a latch, which holds until it is replaced, and a queue of overlays, each of which
counts down by one with every frame and is gone when it reaches zero. What the machine sees is the
latch with the overlays laid over it, merged with the pad that is plugged in; a port whose remote
input is off passes the plugged-in pad through. Since a frame counts down first and is sampled
then, an overlay of `n` frames is seen on `n - 1` of them.
-/

namespace ConsoleLink

/-- How many pad ports a machine has. -/
def portCount : Nat := 4

/-- A pad port. -/
abbrev Port := Fin portCount

/-- Buttons held and sticks moved for a number of frames. -/
structure Overlay where
  buttons : UInt16
  stick : Option Stick := none
  substick : Option Stick := none
  /-- Frames left. -/
  frames : Nat
  deriving DecidableEq

namespace Overlay

/-- Lays the overlay over a pad: its buttons are added, the sticks it names are replaced. -/
def onto (o : Overlay) (p : Pad) : Pad :=
  { p with
    buttons := p.buttons ||| o.buttons
    stick := o.stick.getD p.stick
    substick := o.substick.getD p.substick }

/-- One frame fewer. -/
def countDown (o : Overlay) : Overlay := { o with frames := o.frames - 1 }

end Overlay

/-- The remote input of one port. -/
structure PortInput where
  enabled : Bool := true
  latch : Pad := .neutral
  /-- The overlays that have frames left, in the order they were queued. -/
  timed : List Overlay := []
  deriving DecidableEq

namespace PortInput

/-- The latch with every overlay laid over it in turn. -/
def synthetic (p : PortInput) : Pad := p.timed.foldl (fun pad o => o.onto pad) p.latch

/-- Counts one frame. -/
def advance (p : PortInput) : PortInput :=
  { p with timed := (p.timed.map Overlay.countDown).filter fun o => 0 < o.frames }

/-- What the machine gets to see beside a plugged-in pad. -/
def status (p : PortInput) (live : Pad) : Pad :=
  if p.enabled then p.synthetic.merge live else live

/-- Switches remote input on or off. Switching it back on centres the latch. -/
def setEnabled (p : PortInput) (enabled : Bool) : PortInput :=
  { p with
    enabled := enabled
    latch := if enabled && !p.enabled then .neutral else p.latch }

end PortInput

/-- The remote input of every port. Operations take any number as a port; what names no port has
no effect. -/
structure Input where
  ports : Vector PortInput portCount := .replicate portCount {}
  deriving DecidableEq

namespace Input

/-- The input of a port, if there is such a port. -/
def port? (i : Input) (port : Nat) : Option PortInput := i.ports[port]?

/-- Changes the input of a port. -/
def modify (i : Input) (port : Nat) (f : PortInput → PortInput) : Input :=
  if h : port < portCount then { i with ports := i.ports.set port (f i.ports[port]) } else i

/-- Replaces the latch of a port; `false` if there is no such port. -/
def setLatch (i : Input) (port : Nat) (pad : Pad) : Bool × Input :=
  (decide (port < portCount), i.modify port fun p => { p with latch := pad })

/-- Switches a port's remote input; `false` if there is no such port. -/
def setEnabled (i : Input) (port : Nat) (enabled : Bool) : Bool × Input :=
  (decide (port < portCount), i.modify port fun p => p.setEnabled enabled)

/-- Queues an overlay, unless it is for no frames; whether it was queued. -/
def queue (i : Input) (port : Nat) (o : Overlay) : Bool × Input :=
  if o.frames = 0 then (false, i)
  else (decide (port < portCount), i.modify port fun p => { p with timed := p.timed ++ [o] })

/-- Counts one frame on a port. -/
def advance (i : Input) (port : Nat) : Input := i.modify port PortInput.advance

/-- What the machine gets to see on a port. -/
def status (i : Input) (port : Nat) (live : Pad) : Pad :=
  match i.port? port with
  | some p => p.status live
  | none => live

/-- Counts one frame on a port and samples it, in one go. -/
def nextFrame (i : Input) (port : Nat) (live : Pad) : Pad × Input :=
  let i := i.advance port
  (i.status port live, i)

/-- A port's input without a plugged-in pad. -/
def synthetic (i : Input) (port : Nat) : Option Pad := (i.port? port).map PortInput.synthetic

def isEnabled (i : Input) (port : Nat) : Bool := (i.port? port).any PortInput.enabled

/-- How many overlays are queued on a port. -/
def timedLength (i : Input) (port : Nat) : Nat :=
  ((i.port? port).map fun p => p.timed.length).getD 0

end Input

end ConsoleLink
