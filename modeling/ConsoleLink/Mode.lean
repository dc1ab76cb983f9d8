import ConsoleLink.Text.Blank

/-! # Real time and turns

The two ways of answering a command that holds buttons for a number of frames.
-/

namespace ConsoleLink

/-- Whether a command that holds buttons is answered at once or once its frames have run. -/
inductive Mode where
  | realTime
  | turnBased
  deriving DecidableEq

namespace Mode

def text : Mode → String
  | .realTime => "real-time"
  | .turnBased => "turn-based"

/-- The spellings of a mode, in small letters. -/
def spellings : Mode → List String
  | .realTime => ["real-time", "realtime", "real_time"]
  | .turnBased => ["turn-based", "turnbased", "turn_based"]

/-- The mode of a spelling, in which blanks around it and the case of ASCII letters do not count. -/
def ofText? (text : String) : Option Mode :=
  let name := String.ofList ((Text.trimChars text.toList).map Char.toLower)
  [realTime, turnBased].find? fun mode => mode.spellings.contains name

end Mode

end ConsoleLink
