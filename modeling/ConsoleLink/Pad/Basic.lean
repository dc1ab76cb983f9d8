import ConsoleLink.Pad.Button

/-! # The state of a pad

What one pad reports for one frame, and how two reports are merged. A merge presses what either
presses, takes the larger of each pressure and keeps each stick whole: the position farther from
the centre wins, the first pad's if they are equally far.
-/

namespace ConsoleLink

/-- A stick position; both axes rest at 128. -/
structure Stick where
  x : UInt8
  y : UInt8
  deriving DecidableEq

namespace Stick

def centre : Stick := ⟨128, 128⟩

/-- Squared distance from the centre. -/
def reach (s : Stick) : Int :=
  let dx := (s.x.toNat : Int) - 128
  let dy := (s.y.toNat : Int) - 128
  dx * dx + dy * dy

/-- The position farther from the centre, the first of two equally far. -/
def farther (s t : Stick) : Stick := if s.reach < t.reach then t else s

end Stick

/-- What a pad reports for one frame. -/
structure Pad where
  /-- The word of pressed buttons. -/
  buttons : UInt16 := 0
  stick : Stick := .centre
  substick : Stick := .centre
  triggerLeft : UInt8 := 0
  triggerRight : UInt8 := 0
  analogA : UInt8 := 0
  analogB : UInt8 := 0
  connected : Bool := true
  deriving DecidableEq

namespace Pad

/-- A connected pad that nobody touches. -/
def neutral : Pad := {}

/-- A port without a pad. -/
def unplugged : Pad := { connected := false }

def isPressed (p : Pad) (button : Button) : Bool := p.buttons &&& button.mask != 0

/-- Presses or releases a button. -/
def set (p : Pad) (button : Button) (pressed : Bool) : Pad :=
  { p with
    buttons := if pressed then p.buttons ||| button.mask else p.buttons &&& ~~~button.mask }

/-- The pressed buttons, in their order. -/
def pressed (p : Pad) : List Button := Button.all.filter p.isPressed

/-- Merges two reports for one port; of sticks equally far out, `p`'s counts. -/
def merge (p q : Pad) : Pad where
  buttons := p.buttons ||| q.buttons
  stick := p.stick.farther q.stick
  substick := p.substick.farther q.substick
  triggerLeft := max p.triggerLeft q.triggerLeft
  triggerRight := max p.triggerRight q.triggerRight
  analogA := max p.analogA q.analogA
  analogB := max p.analogB q.analogB
  connected := p.connected || q.connected

end Pad

end ConsoleLink
