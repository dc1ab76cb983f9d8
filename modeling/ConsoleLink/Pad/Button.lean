/-! # The buttons of a pad

A pad reports its twelve digital buttons as bits of one word.
-/

namespace ConsoleLink

/-- A digital button. -/
inductive Button where
  | a | b | x | y | z | start | up | down | left | right | l | r
  deriving DecidableEq

namespace Button

/-- Every button, in the order in which commands and reports list them. -/
def all : List Button := [.a, .b, .x, .y, .z, .start, .up, .down, .left, .right, .l, .r]

/-- The button's bit in the button word. -/
def mask : Button → UInt16
  | .left => 0x0001
  | .right => 0x0002
  | .down => 0x0004
  | .up => 0x0008
  | .z => 0x0010
  | .r => 0x0020
  | .l => 0x0040
  | .a => 0x0100
  | .b => 0x0200
  | .x => 0x0400
  | .y => 0x0800
  | .start => 0x1000

theorem mem_all (button : Button) : button ∈ all := by cases button <;> decide

theorem mask_injective : ∀ {one other : Button}, one.mask = other.mask → one = other := by
  intro one other; cases one <;> cases other <;> decide

end Button

end ConsoleLink
