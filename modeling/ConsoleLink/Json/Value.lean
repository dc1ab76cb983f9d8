import ConsoleLink.NameMap

/-! # JSON values

A number keeps the form it was written in: whole numbers that fit in 64 bits stay whole, anything
else is a double. An object holds its members ascending by key, each key once; `Json.object` puts
members in that order.
-/

namespace ConsoleLink

/-- A JSON number. -/
inductive Number where
  /-- A whole number from zero up. -/
  | natural (n : UInt64)
  /-- The negative whole number `-(k + 1)`. -/
  | negative (k : Fin 0x8000000000000000)
  /-- A finite double, by its bits. -/
  | float (bits : UInt64)
  deriving DecidableEq

namespace Number

def ofNat (n : Nat) : Number := .natural (UInt64.ofNat n)

/-- A whole number of at most 64 bits. -/
def ofInt : Int → Number
  | .ofNat n => .ofNat n
  | .negSucc k => .negative (Fin.ofNat _ k)

/-- The value of a whole number. -/
def toInt? : Number → Option Int
  | .natural n => some n.toNat
  | .negative k => some (Int.negSucc k.val)
  | .float _ => none

/-- The value of a whole number from zero up. -/
def toNat? : Number → Option Nat
  | .natural n => some n.toNat
  | _ => none

end Number

/-- A JSON value. -/
inductive Json where
  | null
  | bool (b : Bool)
  | number (n : Number)
  | text (s : String)
  | array (items : List Json)
  | members (fields : List (String × Json))
  deriving Inhabited

namespace Json

/-- An object of the given members, of which the last with a key counts. -/
def object (fields : List (String × Json)) : Json := .members (NameMap.ofList fields)

def nat (n : Nat) : Json := .number (.ofNat n)

/-- The member of an object under a key; other values have no members. -/
def member? (v : Json) (key : String) : Option Json :=
  match v with
  | .members fields => NameMap.find? key fields
  | _ => none

def asText? : Json → Option String
  | .text s => some s
  | _ => none

def asBool? : Json → Option Bool
  | .bool b => some b
  | _ => none

/-- A whole number from zero up. -/
def asNat? : Json → Option Nat
  | .number n => n.toNat?
  | _ => none

end Json

end ConsoleLink
