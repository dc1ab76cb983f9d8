/-! # Checksums

The cyclic redundancy check and the pair of sums that guard the parts of an image file.
-/

namespace ConsoleLink.Checksum

/-- One bit of the cyclic redundancy check. -/
def crcBit (c : UInt32) : UInt32 :=
  if c &&& 1 = 1 then (c >>> 1) ^^^ 0xEDB88320 else c >>> 1

/-- One byte of the cyclic redundancy check. -/
def crcByte (c : UInt32) (b : UInt8) : UInt32 :=
  crcBit (crcBit (crcBit (crcBit (crcBit (crcBit (crcBit (crcBit (c ^^^ b.toUInt32))))))))

/-- The cyclic redundancy check of some bytes. -/
def crc (bytes : ByteArray) : UInt32 := bytes.foldl crcByte 0xFFFFFFFF ^^^ 0xFFFFFFFF

/-- One byte of the pair of sums. -/
def sumByte (s : UInt32 × UInt32) (b : UInt8) : UInt32 × UInt32 :=
  let low := (s.1 + b.toUInt32) % 65521
  (low, (s.2 + low) % 65521)

/-- The pair of sums of some bytes, in one word. -/
def sums (bytes : ByteArray) : UInt32 :=
  let s := bytes.foldl sumByte (1, 0)
  s.2 <<< 16 ||| s.1

end ConsoleLink.Checksum
