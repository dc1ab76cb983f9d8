import ConsoleLink.Decimal
import ConsoleLink.Text.Unprintable

/-! # What can be wrong with JSON

`TextFault` says why a text is no JSON, `ShapeFault` why a well-formed value is not of the shape
that was expected; `Json.Error` is either. Wording is in the `message` functions only.
-/

namespace ConsoleLink.Json

/-- Why a text is no JSON. -/
inductive TextFault where
  | endInValue
  | endInList
  | endInObject
  | endInString
  | expectedValue
  | expectedIdent
  | expectedColon
  | expectedListCommaOrEnd
  | expectedObjectCommaOrEnd
  | keyMustBeText
  | trailingComma
  | trailingCharacters
  | invalidNumber
  | numberOutOfRange
  | controlCharacter
  | invalidEscape
  | loneSurrogate
  | unpairedSurrogate
  | nestedTooDeeply
  deriving DecidableEq

def TextFault.message : TextFault → String
  | .endInValue => "EOF while parsing a value"
  | .endInList => "EOF while parsing a list"
  | .endInObject => "EOF while parsing an object"
  | .endInString => "EOF while parsing a string"
  | .expectedValue => "expected value"
  | .expectedIdent => "expected ident"
  | .expectedColon => "expected `:`"
  | .expectedListCommaOrEnd => "expected `,` or `]`"
  | .expectedObjectCommaOrEnd => "expected `,` or `\x7d`"
  | .keyMustBeText => "key must be a string"
  | .trailingComma => "trailing comma"
  | .trailingCharacters => "trailing characters"
  | .invalidNumber => "invalid number"
  | .numberOutOfRange => "number out of range"
  | .controlCharacter => "control character (\\u0000-\\u001F) found while parsing a string"
  | .invalidEscape => "invalid escape"
  | .loneSurrogate => "lone leading surrogate in hex escape"
  | .unpairedSurrogate => "unexpected end of hex escape"
  | .nestedTooDeeply => "recursion limit exceeded"

/-- The value found where another was expected. -/
inductive Found where
  | null
  | boolean (b : Bool)
  | integer (n : Int)
  | float (bits : UInt64)
  | text (s : String)
  | sequence
  | map
  deriving DecidableEq

/-- A character of a text shown in quotes. -/
def quotedChar (c : Char) : List Char :=
  if c = '"' then ['\\', '"']
  else if c = '\\' then ['\\', '\\']
  else if c = '\t' then ['\\', 't']
  else if c = '\n' then ['\\', 'n']
  else if c = '\r' then ['\\', 'r']
  else if c.toNat = 0 then ['\\', '0']
  else if c.toNat < 0x20 || c.toNat = 0x7F || Text.isUnprintable c then
    ['\\', 'u', '\x7b'] ++ Nat.toDigits 16 c.toNat ++ ['\x7d']
  else [c]

/-- A text in quotes, its quotes, backslashes and unprintable characters escaped. -/
def quoted (s : String) : String :=
  String.ofList ('"' :: s.toList.flatMap quotedChar ++ ['"'])

def Found.message : Found → String
  | .null => "null"
  | .boolean b => "boolean `" ++ (if b then "true" else "false") ++ "`"
  | .integer n =>
    "integer `" ++ (if n < 0 then "-" else "") ++ Text.decimalText n.natAbs ++ "`"
  | .float bits => "floating point `" ++ String.ofList (Decimal.render bits) ++ "`"
  | .text s => "string " ++ quoted s
  | .sequence => "sequence"
  | .map => "map"

/-- Why a value is not of the expected shape. -/
inductive ShapeFault where
  | missingField (name : String)
  | duplicateField (name : String)
  | wrongType (found : Found) (expected : String)
  | wrongValue (found : Found) (expected : String)
  | wrongLength (length : Nat) (expected : String)
  | unknownVariant (name : String) (known : List String)
  | noVariant (type : String)
  deriving DecidableEq

/-- The names a choice is made from, in backquotes. -/
def alternatives : List String → String
  | [a] => "`" ++ a ++ "`"
  | [a, b] => "`" ++ a ++ "` or `" ++ b ++ "`"
  | names => "one of " ++ ", ".intercalate (names.map fun a => "`" ++ a ++ "`")

def ShapeFault.message : ShapeFault → String
  | .missingField name => "missing field `" ++ name ++ "`"
  | .duplicateField name => "duplicate field `" ++ name ++ "`"
  | .wrongType found expected => "invalid type: " ++ found.message ++ ", expected " ++ expected
  | .wrongValue found expected => "invalid value: " ++ found.message ++ ", expected " ++ expected
  | .wrongLength n expected =>
    "invalid length " ++ Text.decimalText n ++ ", expected " ++ expected
  | .unknownVariant name known =>
    "unknown variant `" ++ name ++ "`, expected " ++ alternatives known
  | .noVariant type => "data did not match any variant of untagged enum " ++ type

/-- Why JSON was refused. -/
inductive Error where
  | badText (fault : TextFault)
  | badShape (fault : ShapeFault)
  deriving DecidableEq

def Error.message : Error → String
  | .badText fault => fault.message
  | .badShape fault => fault.message

end ConsoleLink.Json
