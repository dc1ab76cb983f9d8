/-! # Guest memory

Memory as the control plane reads it: a byte at every 32-bit address, and which addresses are
backed by RAM. Reads go on at address zero after the last address; ranges do not.
-/

namespace ConsoleLink

/-- A view of guest memory. -/
structure Memory where
  /-- The byte at an address; zero where there is no RAM. -/
  byteAt : UInt32 → UInt8
  /-- Whether an address is backed by RAM. -/
  isValid : UInt32 → Bool

namespace Memory

/-- Granularity at which a range is probed. -/
def pageSize : Nat := 4096

/-- The bytes at `count` consecutive addresses. -/
def read (m : Memory) (address : UInt32) (count : Nat) : List UInt8 :=
  (List.range count).map fun i => m.byteAt (address + UInt32.ofNat i)

/-- The number that four bytes write, the first of most weight. -/
def word (b₀ b₁ b₂ b₃ : UInt8) : UInt32 :=
  b₀.toUInt32 <<< 24 ||| b₁.toUInt32 <<< 16 ||| b₂.toUInt32 <<< 8 ||| b₃.toUInt32

/-- The 32-bit word at an address, the first byte of most weight. -/
def readWord (m : Memory) (address : UInt32) : UInt32 :=
  word (m.byteAt address) (m.byteAt (address + 1)) (m.byteAt (address + 2))
    (m.byteAt (address + 3))

/-- Whether a range is backed by RAM: it may not run past the last address, and both its ends and
the start of every page in between are probed. An empty range counts as its address. -/
def isValidRange (m : Memory) (address : UInt32) (length : Nat) : Bool :=
  if length = 0 then m.isValid address
  else
    let last := address.toNat + (length - 1)
    if UInt32.size ≤ last then false
    else
      let firstPage := address.toNat / pageSize + 1
      let lastPage := last / pageSize
      m.isValid address && m.isValid (UInt32.ofNat last) &&
        (List.range' firstPage (lastPage + 1 - firstPage)).all fun page =>
          m.isValid (UInt32.ofNat (page * pageSize))

end Memory

end ConsoleLink
