import ConsoleLink.MessagePack

/-! # Save states

A save state holds the frame number, the image that was running and the RAM. It is written as an
array of the three, the RAM as an array of numbers; it may also be a map of them by name or by
place, in which the image may be missing and what is unknown is passed over. Bytes after the value
do not count.
-/

namespace ConsoleLink

/-- What a save state holds. -/
structure Snapshot where
  frame : UInt64
  game : Option String
  ram : ByteArray

namespace Snapshot

open MessagePack

/-- The bytes of a save state. -/
def encode (s : Snapshot) : ByteArray :=
  let done := pushArrayHead (.emptyWithCapacity (2 * s.ram.size)) 3
  let done := pushNat done s.frame.toNat
  let done := match s.game with
    | some game => pushText done game
    | none => pushNil done
  pushByteNumbers done s.ram

/-- What has been read of a save state. -/
structure Draft where
  frame : Option UInt64 := none
  game : Option (Option String) := none
  ram : Option ByteArray := none

/-- The parts of a save state in their order. -/
inductive Part where
  | frame
  | game
  | ram
  deriving DecidableEq

/-- The part of a name. -/
def Part.ofName? : String → Option Part
  | "frame" => some .frame
  | "game" => some .game
  | "ram" => some .ram
  | _ => none

/-- The part of a place. -/
def Part.ofIndex? : Nat → Option Part
  | 0 => some .frame
  | 1 => some .game
  | 2 => some .ram
  | _ => none

def Draft.isRead (d : Draft) : Part → Bool
  | .frame => d.frame.isSome
  | .game => d.game.isSome
  | .ram => d.ram.isSome

/-- Reads one part. -/
def readPart (bytes : ByteArray) (start : Nat) (d : Draft) : Part → Option (Draft × Nat)
  | .frame => do
    let (n, next) ← readNat bytes start
    return ({ d with frame := some (UInt64.ofNat n) }, next)
  | .game => do
    let textOf (n start : Nat) : Option (Draft × Nat) := do
      let (raw, next) ← slice bytes start n
      return ({ d with game := some (some (← String.fromUTF8? raw)) }, next)
    match ← readHead bytes start with
    | (.nil, next) => return ({ d with game := some none }, next)
    | (.text n, next) => textOf n next
    | (.binary n, next) => textOf n next
    | _ => none
  | .ram => do
    match ← readHead bytes start with
    | (.array n, next) =>
      let (ram, next) ← readByteNumbers bytes n next .empty
      return ({ d with ram := some ram }, next)
    | (.binary n, next) =>
      let (ram, next) ← slice bytes next n
      return ({ d with ram := some ram }, next)
    | _ => none

/-- Reads the key of a member: its part, if it names one. -/
def readKey (bytes : ByteArray) (start : Nat) : Option (Option Part × Nat) := do
  let named (n start : Nat) : Option (Option Part × Nat) := do
    let (raw, next) ← slice bytes start n
    return ((String.fromUTF8? raw).bind Part.ofName?, next)
  match ← readHead bytes start with
  | (.natural n, next) => return (Part.ofIndex? n, next)
  | (.text n, next) => named n next
  | (.binary n, next) => named n next
  | _ => none

/-- Reads `count` members, none of them twice. -/
def readMembers (bytes : ByteArray) : (count : Nat) → (start : Nat) → Draft → Option Draft
  | 0, _, d => some d
  | count + 1, start, d => do
    match ← readKey bytes start with
    | (none, next) => readMembers bytes count (← MessagePack.skip bytes next) d
    | (some part, next) =>
      if d.isRead part then none
      else
        let (d, next) ← readPart bytes next d part
        readMembers bytes count next d

/-- The save state that has been read, if no part is missing that has to be there. -/
def ofDraft? (d : Draft) : Option Snapshot := do
  return { frame := ← d.frame, game := d.game.getD none, ram := ← d.ram }

/-- The save state that some bytes start with. -/
def decode? (bytes : ByteArray) : Option Snapshot := do
  match ← readHead bytes 0 with
  | (.array 3, next) =>
    let (d, next) ← readPart bytes next {} .frame
    let (d, next) ← readPart bytes next d .game
    let (d, _) ← readPart bytes next d .ram
    ofDraft? d
  | (.map n, next) => ofDraft? (← readMembers bytes n next {})
  | _ => none

end Snapshot

end ConsoleLink
