import ConsoleLink.Decimal
import ConsoleLink.Json.Value

/-! # Writing JSON

The compact form: no blanks, members in the order of their keys, only quotes, backslashes and
control characters escaped.
-/

namespace ConsoleLink

/-- A number in its JSON form. -/
def Number.render : Number → List Char
  | .natural n => Text.decimal n.toNat
  | .negative k => '-' :: Text.decimal (k.val + 1)
  | .float bits => Decimal.render bits

namespace Json

/-- A character inside a JSON string. -/
def escapedChar (c : Char) : List Char :=
  if c = '"' then ['\\', '"']
  else if c = '\\' then ['\\', '\\']
  else if c.toNat < 0x20 then
    if c.toNat = 8 then ['\\', 'b']
    else if c.toNat = 9 then ['\\', 't']
    else if c.toNat = 10 then ['\\', 'n']
    else if c.toNat = 12 then ['\\', 'f']
    else if c.toNat = 13 then ['\\', 'r']
    else '\\' :: 'u' :: '0' :: '0' :: Text.hexPair false (UInt8.ofNat c.toNat)
  else [c]

/-- A JSON string. -/
def renderText (s : String) : List Char :=
  '"' :: (s.toList.flatMap escapedChar ++ ['"'])

mutual

/-- A value in compact form, put before `rest`. -/
def renderBefore (rest : List Char) : Json → List Char
  | .null => 'n' :: 'u' :: 'l' :: 'l' :: rest
  | .bool true => 't' :: 'r' :: 'u' :: 'e' :: rest
  | .bool false => 'f' :: 'a' :: 'l' :: 's' :: 'e' :: rest
  | .number n => n.render ++ rest
  | .text s => renderText s ++ rest
  | .array items => '[' :: renderItems rest items
  | .members fields => '\x7b' :: renderFields rest fields

/-- The items of an array after its bracket, put before `rest`. -/
def renderItems (rest : List Char) : List Json → List Char
  | [] => ']' :: rest
  | [v] => renderBefore (']' :: rest) v
  | v :: vs => renderBefore (',' :: renderItems rest vs) v

/-- The members of an object after its brace, put before `rest`. -/
def renderFields (rest : List Char) : List (String × Json) → List Char
  | [] => '\x7d' :: rest
  | [(k, v)] => renderText k ++ ':' :: renderBefore ('\x7d' :: rest) v
  | (k, v) :: fields => renderText k ++ ':' :: renderBefore (',' :: renderFields rest fields) v

end

/-- The compact form of a value. -/
def render (v : Json) : List Char := renderBefore [] v

/-- The compact form of a value, as a text. -/
def compact (v : Json) : String := String.ofList v.render

/-- The compact form of an object whose members keep the order they are given in. -/
def compactFields (fields : List (String × Json)) : String :=
  String.ofList ('\x7b' :: renderFields [] fields)

end Json

end ConsoleLink
