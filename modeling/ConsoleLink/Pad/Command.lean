import ConsoleLink.Json.Decoder
import ConsoleLink.Pad.Input

/-! # Controller commands

The wire form of what a client wants a pad to do, and of a pad's report. Only `buttons` is required
of a command: buttons left out are released, sticks left out are centred, triggers and analog
values left out are zero. With `frames` zero a command is latched, otherwise it is an overlay for
that many frames, which carries only the sticks that the command names.
-/

namespace ConsoleLink

open Json (Decoder Record RecordField field needed)

/-- The name of a button in commands. -/
def Button.wireName : Button → String
  | .a => "a"
  | .b => "b"
  | .x => "x"
  | .y => "y"
  | .z => "z"
  | .start => "start"
  | .up => "up"
  | .down => "down"
  | .left => "left"
  | .right => "right"
  | .l => "l"
  | .r => "r"

/-- A pair of bytes of which each may be left out. -/
abbrev BytePair := Option UInt8 × Option UInt8

/-- The two fields of a pair of bytes. -/
def byteFields (first second : String) : List (RecordField BytePair) :=
  [field first .byte Prod.fst fun v b => (some v, b.2),
   field second .byte Prod.snd fun v b => (b.1, some v)]

/-- A pair of bytes, zero where left out. -/
def pressures (type first second : String) : Record (UInt8 × UInt8) BytePair where
  name := type
  fields := byteFields first second
  blank := (none, none)
  finish b := .ok (b.1.getD 0, b.2.getD 0)

/-- A stick position, of which both axes have to be there. -/
def stickRecord : Record Stick BytePair where
  name := "StickPosition"
  fields := byteFields "x" "y"
  blank := (none, none)
  finish b := do return ⟨← needed "x" b.1, ← needed "y" b.2⟩

/-- What has been read of a set of buttons: those named, and whether each is pressed. -/
abbrev ButtonsRead := List (Button × Bool)

/-- A set of buttons: an object of truth values. What is left out is released. -/
def buttonsRecord : Record UInt16 ButtonsRead where
  name := "ButtonSet"
  fields := Button.all.map fun button =>
    field button.wireName .boolean (fun read => read.lookup button)
      fun pressed read => (button, pressed) :: read
  blank := []
  finish read := .ok <|
    (read.filter Prod.snd).foldl (fun word e => word ||| e.1.mask) 0

/-- A controller command. -/
structure PadCommand where
  connected : Bool := true
  /-- The word of pressed buttons. -/
  buttons : UInt16
  mainStick : Option Stick := none
  cStick : Option Stick := none
  /-- Left and right. -/
  triggers : UInt8 × UInt8 := (0, 0)
  /-- A and B. -/
  analog : UInt8 × UInt8 := (0, 0)
  /-- For how many frames; zero latches. -/
  frames : Nat := 0

namespace PadCommand

/-- What has been read of a command. -/
structure Draft where
  connected : Option Bool := none
  buttons : Option UInt16 := none
  mainStick : Option (Option Stick) := none
  cStick : Option (Option Stick) := none
  triggers : Option (UInt8 × UInt8) := none
  analog : Option (UInt8 × UInt8) := none
  frames : Option Nat := none

def record : Record PadCommand Draft where
  name := "ControllerCommand"
  fields :=
    [field "connected" .boolean (·.connected) fun v b => { b with connected := some v },
     field "buttons" buttonsRecord.decoder (·.buttons) fun v b => { b with buttons := some v },
     field "mainStick" stickRecord.decoder.optional (·.mainStick)
       fun v b => { b with mainStick := some v },
     field "cStick" stickRecord.decoder.optional (·.cStick) fun v b => { b with cStick := some v },
     field "triggers" (pressures "TriggerValues" "l" "r").decoder (·.triggers)
       fun v b => { b with triggers := some v },
     field "analog" (pressures "AnalogValues" "a" "b").decoder (·.analog)
       fun v b => { b with analog := some v },
     field "frames" (.unsigned UInt32.size "u32") (·.frames)
       fun v b => { b with frames := some v }]
  blank := {}
  finish b := do
    return { connected := b.connected.getD true
             buttons := ← needed "buttons" b.buttons
             mainStick := b.mainStick.getD none
             cStick := b.cStick.getD none
             triggers := b.triggers.getD (0, 0)
             analog := b.analog.getD (0, 0)
             frames := b.frames.getD 0 }

def decoder : Decoder PadCommand := record.decoder

/-- The pad state that a command describes. -/
def toPad (c : PadCommand) : Pad where
  buttons := c.buttons
  stick := c.mainStick.getD .centre
  substick := c.cStick.getD .centre
  triggerLeft := c.triggers.1
  triggerRight := c.triggers.2
  analogA := c.analog.1
  analogB := c.analog.2
  connected := c.connected

/-- The overlay that a command asks for, unless it is to be latched. -/
def overlay? (c : PadCommand) : Option Overlay :=
  if c.frames = 0 then none
  else some ⟨c.buttons, c.mainStick, c.cStick, c.frames⟩

end PadCommand

namespace Pad

/-- What has been read of a pad's report. -/
structure Draft where
  buttons : Option Nat := none
  bytes : List (String × UInt8) := []
  connected : Option Bool := none

/-- A byte of a pad's report. -/
def byteField (name : String) : RecordField Draft :=
  field name .byte (fun b => b.bytes.lookup name) fun v b =>
    { b with bytes := (name, v) :: b.bytes }

/-- A pad's report, of which every field has to be there. -/
def record : Record Pad Draft where
  name := "PadStatus"
  fields :=
    field "buttons" (.unsigned UInt16.size "u16") (·.buttons)
      (fun v b => { b with buttons := some v }) ::
    ["stick_x", "stick_y", "substick_x", "substick_y", "trigger_left", "trigger_right",
      "analog_a", "analog_b"].map byteField ++
    [field "connected" .boolean (·.connected) fun v b => { b with connected := some v }]
  blank := {}
  finish b := do
    let byte (name : String) := needed name (b.bytes.lookup name)
    return { buttons := UInt16.ofNat (← needed "buttons" b.buttons)
             stick := ⟨← byte "stick_x", ← byte "stick_y"⟩
             substick := ⟨← byte "substick_x", ← byte "substick_y"⟩
             triggerLeft := ← byte "trigger_left"
             triggerRight := ← byte "trigger_right"
             analogA := ← byte "analog_a"
             analogB := ← byte "analog_b"
             connected := ← needed "connected" b.connected }

def decoder : Decoder Pad := record.decoder

/-- A pad's report as a JSON value. -/
def toJson (p : Pad) : Json := .object
  [("buttons", .nat p.buttons.toNat),
   ("stick_x", .nat p.stick.x.toNat), ("stick_y", .nat p.stick.y.toNat),
   ("substick_x", .nat p.substick.x.toNat), ("substick_y", .nat p.substick.y.toNat),
   ("trigger_left", .nat p.triggerLeft.toNat), ("trigger_right", .nat p.triggerRight.toNat),
   ("analog_a", .nat p.analogA.toNat), ("analog_b", .nat p.analogB.toNat),
   ("connected", .bool p.connected)]

end Pad

end ConsoleLink
