/-! # Lines of a byte stream

A line ends at a line feed, which may follow a carriage return; what comes after the last line feed
is a line too unless it is empty. `readable` is the run of lines a text reader gets: it stops for
good at the first line that is not UTF-8.
-/

namespace ConsoleLink.Text

/-- The pieces between line feeds, each with whether a line feed ended it; `piece` holds, last
byte first, what the current piece has so far. -/
def cutLinesFrom (piece : List UInt8) : List UInt8 → List (List UInt8 × Bool)
  | [] => if piece.isEmpty then [] else [(piece.reverse, false)]
  | b :: bs =>
    if b = 10 then (piece.reverse, true) :: cutLinesFrom [] bs
    else cutLinesFrom (b :: piece) bs

/-- The pieces between line feeds, each with whether a line feed ended it. -/
def cutLines (bytes : List UInt8) : List (List UInt8 × Bool) := cutLinesFrom [] bytes

/-- The text of one piece, without the carriage return of its line end. -/
def lineText? (piece : List UInt8) (ended : Bool) : Option String :=
  let body := if ended && piece.getLast? == some 13 then piece.dropLast else piece
  String.fromUTF8? ⟨body.toArray⟩

/-- The texts of the pieces before the first that is not UTF-8. -/
def readablePieces : List (List UInt8 × Bool) → List String
  | [] => []
  | (piece, ended) :: rest =>
    match lineText? piece ended with
    | some text => text :: readablePieces rest
    | none => []

/-- The lines of a stream before the first that is not UTF-8. -/
def readableLines (bytes : List UInt8) : List String := readablePieces (cutLines bytes)

end ConsoleLink.Text
