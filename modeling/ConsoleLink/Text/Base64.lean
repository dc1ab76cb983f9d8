/-! # Base64

Three bytes are written as four characters of a set of sixty-four, with `=` where bytes are missing
at the end.
-/

namespace ConsoleLink.Text.Base64

/-- The character for a number below sixty-four. -/
def letter (n : Nat) : Char :=
  if n < 26 then Char.ofNat (0x41 + n)
  else if n < 52 then Char.ofNat (0x61 + (n - 26))
  else if n < 62 then Char.ofNat (0x30 + (n - 52))
  else if n = 62 then '+' else '/'

/-- The number that a character stands for. -/
def value? (c : Char) : Option Nat :=
  if c.isUpper then some (c.toNat - 0x41)
  else if c.isLower then some (c.toNat - 0x61 + 26)
  else if c.isDigit then some (c.toNat - 0x30 + 52)
  else if c = '+' then some 62
  else if c = '/' then some 63
  else none

/-- Writes bytes after what is done. -/
def encodeAfter (done : String) : List UInt8 → String
  | a :: b :: c :: rest =>
    let n := a.toNat * 0x10000 + b.toNat * 0x100 + c.toNat
    encodeAfter ((((done.push (letter (n / 0x40000))).push (letter (n / 0x1000 % 0x40))).push
      (letter (n / 0x40 % 0x40))).push (letter (n % 0x40))) rest
  | [a, b] =>
    let n := a.toNat * 0x100 + b.toNat
    (((done.push (letter (n / 0x400))).push (letter (n / 0x10 % 0x40))).push
      (letter (n % 0x10 * 4))).push '='
  | [a] =>
    (((done.push (letter (a.toNat / 4))).push (letter (a.toNat % 4 * 0x10))).push '=').push '='
  | [] => done

/-- Bytes as text. -/
def encode (bytes : ByteArray) : String := encodeAfter "" bytes.toList

/-- Reads bytes after what is done. -/
def decodeAfter (done : ByteArray) : List Char → Option ByteArray
  | [] => some done
  | [a, b, '=', '='] => do
    let n := (← value? a) * 0x40 + (← value? b)
    return done.push (UInt8.ofNat (n / 0x10))
  | [a, b, c, '='] => do
    let n := (← value? a) * 0x1000 + (← value? b) * 0x40 + (← value? c)
    return (done.push (UInt8.ofNat (n / 0x400))).push (UInt8.ofNat (n / 4))
  | a :: b :: c :: d :: rest => do
    let n := (← value? a) * 0x40000 + (← value? b) * 0x1000 + (← value? c) * 0x40 + (← value? d)
    decodeAfter (((done.push (UInt8.ofNat (n / 0x10000))).push (UInt8.ofNat (n / 0x100))).push
      (UInt8.ofNat n)) rest
  | _ => none

/-- The bytes that a text stands for. -/
def decode? (text : String) : Option ByteArray := decodeAfter .empty text.toList

end ConsoleLink.Text.Base64
