/-! # MessagePack

The parts of the binary format that save states use. Numbers, texts and arrays are written in the
shortest form there is for them. A value is read by its head, which gives its kind and, for what is
longer than the head, a length; `skipMany` passes over values of any kind.
-/

namespace ConsoleLink.MessagePack

/-! ## Writing -/

/-- The low `count` bytes of a number, the one of most weight first. -/
def pushBytes (n : Nat) : (count : Nat) → ByteArray → ByteArray
  | 0, done => done
  | count + 1, done => pushBytes n count (done.push (UInt8.ofNat (n >>> (8 * count))))

/-- A number below `2 ^ 64`. -/
def pushNat (done : ByteArray) (n : Nat) : ByteArray :=
  if n < 128 then done.push (UInt8.ofNat n)
  else if n < 0x100 then pushBytes n 1 (done.push 0xCC)
  else if n < 0x10000 then pushBytes n 2 (done.push 0xCD)
  else if n < 0x100000000 then pushBytes n 4 (done.push 0xCE)
  else pushBytes n 8 (done.push 0xCF)

/-- The number of a byte. -/
def pushByte (done : ByteArray) (b : UInt8) : ByteArray :=
  if b < 128 then done.push b else (done.push 0xCC).push b

def pushNil (done : ByteArray) : ByteArray := done.push 0xC0

/-- A text of less than `2 ^ 32` bytes. -/
def pushText (done : ByteArray) (s : String) : ByteArray :=
  let n := s.utf8ByteSize
  let done :=
    if n < 32 then done.push (UInt8.ofNat (0xA0 + n))
    else if n < 0x100 then pushBytes n 1 (done.push 0xD9)
    else if n < 0x10000 then pushBytes n 2 (done.push 0xDA)
    else pushBytes n 4 (done.push 0xDB)
  done ++ s.toUTF8

/-- The head of an array of fewer than `2 ^ 32` items. -/
def pushArrayHead (done : ByteArray) (n : Nat) : ByteArray :=
  if n < 16 then done.push (UInt8.ofNat (0x90 + n))
  else if n < 0x10000 then pushBytes n 2 (done.push 0xDC)
  else pushBytes n 4 (done.push 0xDD)

/-- An array of the numbers of some bytes. -/
def pushByteNumbers (done bytes : ByteArray) : ByteArray :=
  bytes.foldl pushByte (pushArrayHead done bytes.size)

/-! ## Reading -/

/-- What the head of a value says. -/
inductive Head where
  | nil
  | bool
  | natural (n : Nat)
  /-- A number in a form that can be negative. -/
  | signed (n : Int)
  | float
  | text (length : Nat)
  | binary (length : Nat)
  | array (count : Nat)
  | map (count : Nat)
  /-- A value of a kind that the format leaves open. -/
  | extension (length : Nat)

/-- The number that `count` bytes write. -/
def natAt (bytes : ByteArray) (start : Nat) : (count : Nat) → Nat → Option Nat
  | 0, n => some n
  | count + 1, n =>
    match bytes[start]? with
    | some b => natAt bytes (start + 1) count (n * 256 + b.toNat)
    | none => none

/-- A number of so many bytes in two's complement. -/
def signedOf (count n : Nat) : Int :=
  let size : Nat := 1 <<< (8 * count)
  if n < size / 2 then n else (n : Int) - size

/-- Reads a head whose length or value takes `count` bytes. -/
def sized (bytes : ByteArray) (start count : Nat) (head : Nat → Head) : Option (Head × Nat) :=
  (natAt bytes start count 0).map fun n => (head n, start + count)

/-- Passes over a value of fixed size. -/
def fixed (bytes : ByteArray) (start count : Nat) (head : Head) : Option (Head × Nat) :=
  if start + count ≤ bytes.size then some (head, start + count) else none

/-- Reads the head of a value: what it says, and where it ends. -/
def readHead (bytes : ByteArray) (start : Nat) : Option (Head × Nat) :=
  match bytes[start]? with
  | none => none
  | some b =>
    let m := b.toNat
    let next := start + 1
    if m < 0x80 then some (.natural m, next)
    else if m < 0x90 then some (.map (m - 0x80), next)
    else if m < 0xA0 then some (.array (m - 0x90), next)
    else if m < 0xC0 then some (.text (m - 0xA0), next)
    else if 0xE0 ≤ m then some (.signed ((m : Int) - 256), next)
    else match m with
      | 0xC0 => some (.nil, next)
      | 0xC2 => some (.bool, next)
      | 0xC3 => some (.bool, next)
      | 0xC4 => sized bytes next 1 .binary
      | 0xC5 => sized bytes next 2 .binary
      | 0xC6 => sized bytes next 4 .binary
      | 0xC7 => sized bytes next 1 .extension
      | 0xC8 => sized bytes next 2 .extension
      | 0xC9 => sized bytes next 4 .extension
      | 0xCA => fixed bytes next 4 .float
      | 0xCB => fixed bytes next 8 .float
      | 0xCC => sized bytes next 1 .natural
      | 0xCD => sized bytes next 2 .natural
      | 0xCE => sized bytes next 4 .natural
      | 0xCF => sized bytes next 8 .natural
      | 0xD0 => sized bytes next 1 fun n => .signed (signedOf 1 n)
      | 0xD1 => sized bytes next 2 fun n => .signed (signedOf 2 n)
      | 0xD2 => sized bytes next 4 fun n => .signed (signedOf 4 n)
      | 0xD3 => sized bytes next 8 fun n => .signed (signedOf 8 n)
      | 0xD4 => some (.extension 1, next)
      | 0xD5 => some (.extension 2, next)
      | 0xD6 => some (.extension 4, next)
      | 0xD7 => some (.extension 8, next)
      | 0xD8 => some (.extension 16, next)
      | 0xD9 => sized bytes next 1 .text
      | 0xDA => sized bytes next 2 .text
      | 0xDB => sized bytes next 4 .text
      | 0xDC => sized bytes next 2 .array
      | 0xDD => sized bytes next 4 .array
      | 0xDE => sized bytes next 2 .map
      | 0xDF => sized bytes next 4 .map
      | _ => none

/-- The bytes of a text or of binary data. -/
def slice (bytes : ByteArray) (start length : Nat) : Option (ByteArray × Nat) :=
  if start + length ≤ bytes.size then some (bytes.extract start (start + length), start + length)
  else none

/-- Reads a number from zero up, in whatever form. -/
def readNat (bytes : ByteArray) (start : Nat) : Option (Nat × Nat) :=
  match readHead bytes start with
  | some (.natural n, next) => some (n, next)
  | some (.signed n, next) => if 0 ≤ n then some (n.toNat, next) else none
  | _ => none

/-- Reads `count` numbers below 256 and puts them after what is done. -/
def readByteNumbers (bytes : ByteArray) :
    (count : Nat) → (start : Nat) → ByteArray → Option (ByteArray × Nat)
  | 0, start, done => some (done, start)
  | count + 1, start, done =>
    match readNat bytes start with
    | some (n, next) =>
      if n < 256 then readByteNumbers bytes count next (done.push (UInt8.ofNat n)) else none
    | none => none

/-- How many arrays, maps and extensions may stand inside each other in a value that is passed
over. -/
def maxLevels : Nat := 1022

/-- Passes over `count` values; `fuel` is at least the number of bytes left, and one more. -/
def skipMany (bytes : ByteArray) :
    (fuel levels count : Nat) → (start : Nat) → Option Nat
  | _, _, 0, start => some start
  | 0, _, _ + 1, _ => none
  | fuel + 1, levels, count + 1, start => do
    let (head, next) ← readHead bytes start
    let inside (n : Nat) : Option Nat :=
      if levels = 0 then none else skipMany bytes fuel (levels - 1) n next
    let next ← match head with
      | .text n => (slice bytes next n).map Prod.snd
      | .binary n => (slice bytes next n).map Prod.snd
      | .extension n => if levels = 0 then none else (slice bytes next (n + 1)).map Prod.snd
      | .array n => inside n
      | .map n => inside (2 * n)
      | _ => some next
    skipMany bytes fuel levels count next

/-- Passes over a value. -/
def skip (bytes : ByteArray) (start : Nat) : Option Nat :=
  skipMany bytes (bytes.size + 1) maxLevels 1 start

end ConsoleLink.MessagePack
