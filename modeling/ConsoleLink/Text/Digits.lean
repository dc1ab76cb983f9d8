/-! # Digits in a base up to sixteen

`digitValue?` and `digitChar` are the two directions for one digit, `unsigned?` reads a whole
number with an optional plus sign and a bound, `decimal` writes one, and `hexPair` writes one byte.
-/

namespace ConsoleLink.Text

/-- What a digit counts, letters in either case. -/
def digitValue? (base : Nat) (c : Char) : Option Nat :=
  let n := c.toNat
  let value :=
    if 0x30 ≤ n && n ≤ 0x39 then n - 0x30
    else if 0x41 ≤ n && n ≤ 0x46 then n - 0x37
    else if 0x61 ≤ n && n ≤ 0x66 then n - 0x57
    else base
  if value < base then some value else none

/-- The number that a run of digits writes; `none` if some character is no digit. -/
def digitsValue? (base : Nat) (acc : Nat) : List Char → Option Nat
  | [] => some acc
  | c :: cs => (digitValue? base c).bind fun d => digitsValue? base (acc * base + d) cs

/-- A number below `limit`: one plus sign or none, then at least one digit. -/
def unsigned? (base limit : Nat) (cs : List Char) : Option Nat :=
  let digits := match cs with
    | '+' :: rest => rest
    | _ => cs
  match digits with
  | [] => none
  | _ => (digitsValue? base 0 digits).filter (· < limit)

/-- The digit for a number below sixteen. -/
def digitChar (upper : Bool) (n : Nat) : Char :=
  if n < 10 then Char.ofNat (0x30 + n)
  else Char.ofNat ((if upper then 0x37 else 0x57) + n)

/-- A whole number in base ten, without leading zeros. -/
def decimal (n : Nat) : List Char :=
  if n < 10 then [digitChar false n] else decimal (n / 10) ++ [digitChar false (n % 10)]

/-- A whole number in base ten, as a text. -/
def decimalText (n : Nat) : String := String.ofList (decimal n)

/-- A whole number in base ten with at least `width` digits. -/
def decimalPadded (width n : Nat) : List Char :=
  let digits := decimal n
  List.replicate (width - digits.length) '0' ++ digits

/-- A byte as two digits of base sixteen. -/
def hexPair (upper : Bool) (b : UInt8) : List Char :=
  [digitChar upper (b.toNat / 16), digitChar upper (b.toNat % 16)]

/-- Bytes as digits of base sixteen, two for each. -/
def hexText (upper : Bool) (bytes : List UInt8) : List Char :=
  bytes.flatMap (hexPair upper)

/-- The bytes that pairs of digits of base sixteen write. -/
def hexBytes? : List Char → Option (List UInt8)
  | [] => some []
  | [_] => none
  | a :: b :: rest => do
    let hi ← digitValue? 16 a
    let lo ← digitValue? 16 b
    return UInt8.ofNat (hi * 16 + lo) :: (← hexBytes? rest)

end ConsoleLink.Text
