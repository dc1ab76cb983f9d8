import ConsoleLink.Memory
import ConsoleLink.Watch.Definition

/-! # What a watch shows

Starting at its address, each offset of a watch is added to the 32-bit word at the address reached.
Every address reached has to be backed by RAM, and so has the range that is shown; otherwise the
watch shows the fault value.
-/

namespace ConsoleLink.Watch

/-- What a watch shows if some address on the way is not backed by RAM. -/
def faultValue : String := "0"

/-- The address that a chain of offsets leads to, if every address on the way is valid. -/
def chase (m : Memory) (address : UInt32) : List UInt32 → Option UInt32
  | [] => some address
  | offset :: offsets =>
    if m.isValid address then
      let next := m.readWord address + offset
      if m.isValid next then chase m next offsets else none
    else none

/-- The bytes that a watch shows. -/
def bytes? (m : Memory) (d : WatchDescriptor) : Option (List UInt8) :=
  (chase m d.address d.offsets).bind fun address =>
    if m.isValidRange address d.size then some (m.read address d.size) else none

/-- The value of a watch: its bytes in hexadecimal, or the fault value. -/
def resolve (m : Memory) (d : WatchDescriptor) : String :=
  match bytes? m d with
  | some bytes => String.ofList (Text.hexText true bytes)
  | none => faultValue

end ConsoleLink.Watch
