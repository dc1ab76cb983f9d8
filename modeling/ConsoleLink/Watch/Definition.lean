import ConsoleLink.Json.Decoder
import ConsoleLink.Watch.Notation

/-! # Definitions of watches

A watch names an address, a chain of pointer offsets and a width. `WatchSpec` is the wire form, in
which addresses are text and the chain is one text or a list of texts; `WatchDescriptor` is the
definition that a valid wire form stands for.
-/

namespace ConsoleLink

open Json (Decoder Record RecordField field needed)

/-- The offsets of a watch as written: texts separated by blanks, or a list of texts. -/
inductive OffsetSpec where
  | chain (text : String)
  | list (texts : List String)

/-- A watch as written. -/
structure WatchSpec where
  address : String
  offset : Option OffsetSpec
  size : Nat

namespace OffsetSpec

/-- The offsets that a JSON value is. -/
def ofJson? : Json → Option OffsetSpec
  | .text s => some (.chain s)
  | .array items => (items.mapM Json.asText?).map .list
  | _ => none

def decoder : Decoder OffsetSpec := .picking "OffsetSpec" ofJson?

end OffsetSpec

namespace WatchSpec

/-- What has been read of a watch. -/
structure Draft where
  address : Option String := none
  offset : Option (Option OffsetSpec) := none
  size : Option Nat := none

def record : Record WatchSpec Draft where
  name := "WatchSpec"
  fields :=
    [field "address" .text (·.address) fun v b => { b with address := some v },
     field "offset" OffsetSpec.decoder.optional (·.offset) fun v b => { b with offset := some v },
     field "size" (.unsigned UInt32.size "u32") (·.size) fun v b => { b with size := some v }]
  blank := {}
  finish b := do
    return { address := ← needed "address" b.address
             offset := b.offset.getD none
             size := ← needed "size" b.size }

def decoder : Decoder WatchSpec := record.decoder

end WatchSpec

/-- A valid definition of a watch. -/
structure WatchDescriptor where
  address : UInt32
  /-- Empty for a direct read. -/
  offsets : List UInt32
  /-- How many bytes are shown. -/
  size : Nat
  deriving DecidableEq

namespace WatchDescriptor

/-- A definition, if its size is within bounds. -/
def make (address : UInt32) (offsets : List UInt32) (size : Nat) :
    Except WatchError WatchDescriptor :=
  if size = 0 || maxWatchSize < size then .error (.invalidSize size)
  else .ok ⟨address, offsets, size⟩

/-- The offsets that a wire form stands for. -/
def offsetsOf : Option OffsetSpec → Except WatchError (List UInt32)
  | none => .ok []
  | some (.chain text) => Watch.readOffsetChain text
  | some (.list texts) => Watch.readOffsets texts

/-- The definition that a wire form stands for; address, offsets and size are checked in turn. -/
def ofSpec (spec : WatchSpec) : Except WatchError WatchDescriptor := do
  let address ← Watch.readHex spec.address
  let offsets ← offsetsOf spec.offset
  make address offsets spec.size

end WatchDescriptor

end ConsoleLink
