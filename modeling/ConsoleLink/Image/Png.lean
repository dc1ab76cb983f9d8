import ConsoleLink.Image.Checksum
import ConsoleLink.Image.Framebuffer
import ConsoleLink.Text.Digits

/-! # PNG images

A frame is written as eight-bit red, green, blue and opacity, its rows unfiltered and its data
stored in blocks without compression. `decode?` reads images of that form back.
-/

namespace ConsoleLink.Png

/-- Why a frame is no image. -/
inductive Fault where
  | zeroWidth
  | zeroHeight
  /-- The pixels are not as many bytes as the size asks for. -/
  | wrongSize (expected actual : Nat)
  deriving DecidableEq

def Fault.message : Fault → String
  | .zeroWidth => "Zero width not allowed"
  | .zeroHeight => "Zero height not allowed"
  | .wrongSize expected actual =>
    "wrong data size, expected " ++ Text.decimalText expected ++ " got " ++
      Text.decimalText actual

/-- A 32-bit number, the byte of most weight first. -/
def word (n : Nat) : ByteArray :=
  ⟨#[UInt8.ofNat (n / 0x1000000), UInt8.ofNat (n / 0x10000), UInt8.ofNat (n / 0x100),
    UInt8.ofNat n]⟩

/-- A 16-bit number, the byte of less weight first. -/
def shortLow (n : Nat) : ByteArray := ⟨#[UInt8.ofNat n, UInt8.ofNat (n / 0x100)]⟩

def signature : ByteArray := ⟨#[137, 80, 78, 71, 13, 10, 26, 10]⟩

/-- A part of the file: its length, its kind and data, and their check. -/
def chunk (kind : String) (data : ByteArray) : ByteArray :=
  let body := kind.toUTF8 ++ data
  word data.size ++ body ++ word (Checksum.crc body).toNat

/-- The part that gives the size and the form of the pixels. -/
def header (width height : Nat) : ByteArray :=
  chunk "IHDR" (word width ++ word height ++ ⟨#[8, 6, 0, 0, 0]⟩)

def trailer : ByteArray := chunk "IEND" .empty

/-- The most bytes that one stored block holds. -/
def blockLimit : Nat := 65535

/-- Data in stored blocks; `fuel` is at least the number of blocks. -/
def storeFrom (data : ByteArray) : (fuel start : Nat) → ByteArray → ByteArray
  | 0, _, done => done
  | fuel + 1, start, done =>
    let stop := min (start + blockLimit) data.size
    let length := stop - start
    let last := stop = data.size
    let done := done ++ ⟨#[if last then 1 else 0]⟩ ++ shortLow length ++
      shortLow (65535 - length) ++ data.extract start stop
    if last then done else storeFrom data fuel stop done

/-- Data stored without compression. -/
def store (data : ByteArray) : ByteArray :=
  storeFrom data (data.size / blockLimit + 1) 0 ⟨#[0x78, 0x01]⟩ ++
    word (Checksum.sums data).toNat

/-- The rows of an image, each after a byte that says it is not filtered. -/
def rows (width height : Nat) (rgba : ByteArray) : ByteArray :=
  (List.range height).foldl
    (fun done y => done.push 0 ++ rgba.extract (4 * width * y) (4 * width * (y + 1))) .empty

/-- What keeps a frame from being an image. -/
def fault? (f : Framebuffer) : Option Fault :=
  if f.width = 0 then some .zeroWidth
  else if f.height = 0 then some .zeroHeight
  else if f.pixels.size ≠ f.width * f.height then
    some (.wrongSize (4 * (f.width * f.height)) (4 * f.pixels.size))
  else none

/-- The image of a frame. -/
def encode (f : Framebuffer) : Except Fault ByteArray :=
  match fault? f with
  | some fault => .error fault
  | none => .ok <|
    signature ++ header f.width f.height ++ chunk "IDAT" (store (rows f.width f.height f.rgba)) ++
      trailer

/-- What stands in a file once its image has turned out to be faulty. -/
def remnant (f : Framebuffer) : Fault → ByteArray
  | .zeroWidth | .zeroHeight => trailer
  | .wrongSize .. => signature ++ header f.width f.height ++ trailer

/-! ## Reading -/

/-- A decoded image. -/
structure Image where
  width : Nat
  height : Nat
  rgba : ByteArray

def byteAt (bytes : ByteArray) (i : Nat) : Nat := ((bytes[i]?).map UInt8.toNat).getD 0

/-- The number at a place, the byte of most weight first. -/
def wordAt (bytes : ByteArray) (i : Nat) : Nat :=
  byteAt bytes i * 0x1000000 + byteAt bytes (i + 1) * 0x10000 + byteAt bytes (i + 2) * 0x100 +
    byteAt bytes (i + 3)

/-- The data of the part at a place, if it is of that kind and its check is right. -/
def chunkAt? (bytes : ByteArray) (start : Nat) (kind : String) : Option ByteArray :=
  let length := wordAt bytes start
  let body := bytes.extract (start + 4) (start + 8 + length)
  if body.size = length + 4 && body.extract 0 4 == kind.toUTF8 &&
      wordAt bytes (start + 8 + length) = (Checksum.crc body).toNat then
    some (body.extract 4 (length + 4))
  else none

/-- The data of stored blocks; `fuel` is at least the number of blocks. -/
def unstoreFrom (data : ByteArray) : (fuel start : Nat) → ByteArray → Option ByteArray
  | 0, _, _ => none
  | fuel + 1, start, done =>
    let length := byteAt data (start + 1) + byteAt data (start + 2) * 0x100
    let stop := start + 5 + length
    if 1 < byteAt data start || data.size < stop then none
    else
      let done := done ++ data.extract (start + 5) stop
      if byteAt data start = 1 then some done else unstoreFrom data fuel stop done

/-- The rows without the bytes that say they are not filtered. -/
def unrow? (width height : Nat) (data : ByteArray) : Option ByteArray :=
  let step := 4 * width + 1
  if data.size ≠ step * height then none
  else (List.range height).foldlM
    (fun done y =>
      if byteAt data (step * y) = 0 then
        some (done ++ data.extract (step * y + 1) (step * (y + 1)))
      else none) .empty

/-- The image in a file that `encode` could have written. -/
def decode? (bytes : ByteArray) : Option Image := do
  guard (bytes.extract 0 8 == signature)
  let head ← chunkAt? bytes 8 "IHDR"
  guard (head.extract 8 13 == ⟨#[8, 6, 0, 0, 0]⟩)
  let width := wordAt head 0
  let height := wordAt head 4
  let packed ← chunkAt? bytes 33 "IDAT"
  let data ← unstoreFrom packed (packed.size + 1) 2 .empty
  let rgba ← unrow? width height data
  return ⟨width, height, rgba⟩

end ConsoleLink.Png
