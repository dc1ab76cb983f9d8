import ConsoleLink.Text.Blank
import ConsoleLink.Text.Digits

/-! # How addresses and offsets are written

An address is a hexadecimal number of 32 bits, with or without `0x`. An offset may have a minus
sign and then stands for its two's complement. Blanks around either do not count.
-/

namespace ConsoleLink

/-- What can be wrong with the definition of a watch. -/
inductive WatchError where
  | invalidHex (text : String)
  | offsetRange (text : String)
  | invalidSize (size : Nat)
  deriving DecidableEq

/-- The most bytes that a watch may show. -/
def maxWatchSize : Nat := 4096

def WatchError.message : WatchError → String
  | .invalidHex text => "invalid hex value '" ++ text ++ "'"
  | .offsetRange text => "offset '" ++ text ++ "' does not fit in 32 bits"
  | .invalidSize size =>
    "size must be between 1 and " ++ Text.decimalText maxWatchSize ++ ", got " ++
      Text.decimalText size

namespace Watch

/-- The digits of an address, without the mark of the base. -/
def hexDigits : List Char → List Char
  | '0' :: 'x' :: rest => rest
  | '0' :: 'X' :: rest => rest
  | cs => cs

/-- Reads an address. -/
def readHex (text : String) : Except WatchError UInt32 :=
  match Text.unsigned? 16 UInt32.size (hexDigits (Text.trimChars text.toList)) with
  | some n => .ok (UInt32.ofNat n)
  | none => .error (.invalidHex text)

/-- Reads an offset: an address, or a minus sign and a magnitude of at most `0x80000000`. -/
def readOffset (text : String) : Except WatchError UInt32 :=
  match Text.trimChars text.toList with
  | '-' :: rest =>
    match readHex (String.ofList rest) with
    | .error e => .error e
    | .ok magnitude =>
      if 0x80000000 < magnitude then .error (.offsetRange text) else .ok (-magnitude)
  | cs => readHex (String.ofList cs)

/-- Reads offsets, as many as the list has texts. -/
def readOffsets (texts : List String) : Except WatchError (List UInt32) := texts.mapM readOffset

/-- Reads offsets that blanks separate. -/
def readOffsetChain (text : String) : Except WatchError (List UInt32) :=
  readOffsets ((Text.words text.toList).map String.ofList)

end Watch

end ConsoleLink
