import ConsoleLink.Text.Digits

/-! # Decimal forms of binary floating-point numbers

`shortest` finds the fewest decimal digits that read back as a given double: it takes the interval
of reals that round to the double and tests, for one digit, two digits and so on, the two
neighbours of the value on that decimal grid. `render` is the layout of a number in a message.
`ofScaled` is the reading direction: digits times a power of ten, each step rounded.
-/

namespace ConsoleLink.Decimal

/-- Mantissa and binary exponent of the magnitude of a finite double. -/
def parts (bits : UInt64) : Nat × Int :=
  let e := ((bits >>> 52) &&& 0x7FF).toNat
  let f := (bits &&& 0xFFFFFFFFFFFFF).toNat
  if e = 0 then (f, -1074) else (f + 0x10000000000000, (e : Int) - 1075)

/-- A value with the ends of the interval that rounds to it, over one denominator. -/
structure Interval where
  low : Nat
  value : Nat
  high : Nat
  denominator : Nat
  /-- Whether the ends themselves round to the value. -/
  closed : Bool

/-- The reals that round to `m · 2 ^ q`: half a step to either side, and a quarter of a step below
a power of two, where the steps halve. -/
def interval (m : Nat) (q : Int) : Interval :=
  let below := if m = 0x10000000000000 && q > -1074 then 1 else 2
  let p := q - 2
  let unit := if p < 0 then 1 else 1 <<< p.toNat
  { low := (4 * m - below) * unit
    value := 4 * m * unit
    high := (4 * m + 2) * unit
    denominator := if p < 0 then 1 <<< (-p).toNat else 1
    closed := m % 2 = 0 }

/-- The exponent of the first decimal digit of a positive double. -/
def leadingExponent (v : Interval) : Int :=
  ((Text.decimal (v.value * Nat.pow 10 400 / v.denominator)).length : Int) - 401

/-- The neighbour of the value on the grid of multiples of `10 ^ k` that rounds to it, the nearer
one of two, the even one of two equally near. -/
def onGrid (v : Interval) (k : Int) : Option Nat :=
  let up := if k < 0 then 1 else Nat.pow 10 k.toNat
  let down := if k < 0 then Nat.pow 10 (-k).toNat else 1
  let step := up * v.denominator
  let inside (d : Nat) : Bool :=
    if v.closed then v.low * down ≤ d * step && d * step ≤ v.high * down
    else v.low * down < d * step && d * step < v.high * down
  let d := v.value * down / step
  let below := v.value * down - d * step
  let above := (d + 1) * step - v.value * down
  match inside d, inside (d + 1) with
  | true, true =>
    if below < above then some d
    else if above < below then some (d + 1)
    else if d % 2 = 0 then some d else some (d + 1)
  | true, false => some d
  | false, true => some (d + 1)
  | false, false => none

/-- Tries grids of `n`, `n + 1`, … significant digits, `tries` of them. -/
def searchGrids (v : Interval) (lead : Int) : (tries n : Nat) → Nat × Int
  | 0, n => (v.value / v.denominator, n)
  | tries + 1, n =>
    let k := lead - (n : Int) + 1
    match onGrid v k with
    | some d => (d, k)
    | none => searchGrids v lead tries (n + 1)

/-- Moves zeros at the end of the digits into the exponent; `fuel` is at least their number. -/
def dropZeros : (fuel d : Nat) → Int → Nat × Int
  | 0, d, k => (d, k)
  | fuel + 1, d, k => if d % 10 = 0 then dropZeros fuel (d / 10) (k + 1) else (d, k)

/-- Digits `d` and exponent `k` such that `d · 10 ^ k` is the shortest decimal that rounds to the
magnitude of a finite double other than zero. -/
def shortest (bits : UInt64) : Nat × Int :=
  let (m, q) := parts bits
  let v := interval m q
  let (d, k) := searchGrids v (leadingExponent v) 17 1
  dropZeros 20 d k

/-- Exponents of the first digit that are written without an exponent part. -/
def isPositional (lead : Int) : Bool := -5 ≤ lead && lead < 16

/-- Digits with a point and no exponent part; a whole number ends in `.0`. -/
def positional (digits : List Char) (lead : Int) : List Char :=
  if lead < 0 then '0' :: '.' :: (List.replicate ((-lead).toNat - 1) '0' ++ digits)
  else
    let whole := lead.toNat + 1
    if digits.length ≤ whole then
      digits ++ List.replicate (whole - digits.length) '0' ++ ['.', '0']
    else digits.take whole ++ '.' :: digits.drop whole

/-- Digits with a point after the first and a signed exponent. -/
def scientific (digits : List Char) (lead : Int) : List Char :=
  let mantissa := match digits with
    | [d] => [d]
    | d :: ds => d :: '.' :: ds
    | [] => []
  mantissa ++ 'e' :: (if lead < 0 then '-' else '+') :: Text.decimal lead.natAbs

/-- A finite double as a message shows it. -/
def render (bits : UInt64) : List Char :=
  let sign := if bits >>> 63 = 0 then [] else ['-']
  if (parts bits).1 = 0 then sign ++ ['0', '.', '0']
  else
    let (d, k) := shortest bits
    let digits := Text.decimal d
    let lead := k + digits.length - 1
    sign ++ if isPositional lead then positional digits lead else scientific digits lead

/-- `f · 10 ^ e`, or `none` if it is too large for a double. A division beyond `10 ^ 308` is made
in steps of that size, `fuel` of them at most. -/
def scale : (fuel : Nat) → Float → Int → Option Float
  | 0, f, _ => some f
  | fuel + 1, f, e =>
    if e.natAbs ≤ 308 then
      let power := Float.ofScientific 1 false e.natAbs
      if 0 ≤ e then
        let r := f * power
        if r.isInf then none else some r
      else some (f / power)
    else if f == 0 then some f
    else if 0 ≤ e then none
    else scale fuel (f / Float.ofScientific 1 false 308) (e + 308)

/-- The double for `digits · 10 ^ e` with a sign; `none` if it is too large. -/
def ofScaled (negative : Bool) (digits : UInt64) (e : Int) : Option UInt64 :=
  (scale (e.natAbs / 308 + 2) digits.toFloat e).map fun f =>
    (if negative then -f else f).toBits

end ConsoleLink.Decimal
