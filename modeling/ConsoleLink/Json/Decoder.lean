import ConsoleLink.Json.Reader

/-! # Reading values of a fixed shape

A `Decoder` reads one shape in two ways: straight from text, where a fault is found at the first
character or field that has it, and from a JSON value, whose members are visited in the order of
their keys. A `Record` describes an object with fixed fields, which may also be written as the
array of its fields in order; keys that are no field are passed over.
-/

namespace ConsoleLink

/-- How a message names a number. -/
def Number.found : Number → Json.Found
  | .natural n => .integer n.toNat
  | .negative k => .integer (Int.negSucc k.val)
  | .float bits => .float bits

namespace Json

/-- How a message names a value. -/
def found : Json → Found
  | .null => .null
  | .bool b => .boolean b
  | .number n => n.found
  | .text s => .text s
  | .array _ => .sequence
  | .members _ => .map

/-- Reads one shape of value. -/
structure Decoder (α : Type) where
  /-- Reads it from text, where `levels` more arrays and objects may be entered. -/
  ofText : (levels : Nat) → List Char → Except Error (α × List Char)
  /-- Reads it from a value. -/
  ofValue : Json → Except Error α

/-- The refusal of a shape. -/
def misshaped {α : Type} (fault : ShapeFault) : Except Error α := .error (.badShape fault)

/-- The refusal of a value of the wrong type. -/
def mistyped {α : Type} (expected : String) (v : Json) : Except Error α :=
  misshaped (.wrongType v.found expected)

/-- The refusal of a text that starts with a value of the wrong type. A scalar is read first, so
that its own faults are found; an array or object is not entered. -/
def mistypedText {α : Type} (expected : String) (cs : List Char) : Except Error α :=
  match cs with
  | '[' :: _ => misshaped (.wrongType .sequence expected)
  | '\x7b' :: _ => misshaped (.wrongType .map expected)
  | _ => do
    let (v, _) ← readValue 0 cs
    mistyped expected v

namespace Decoder

variable {α β : Type}

def map (f : α → β) (d : Decoder α) : Decoder β where
  ofText levels cs := do
    let (a, rest) ← d.ofText levels cs
    return (f a, rest)
  ofValue v := do return f (← d.ofValue v)

/-- Reads any value. -/
def any : Decoder Json where
  ofText := readValue
  ofValue := .ok

/-- Reads a string. -/
def text : Decoder String where
  ofText _ cs :=
    match skipSpace cs with
    | '"' :: rest => readText rest
    | cs => mistypedText "a string" cs
  ofValue
    | .text s => .ok s
    | v => mistyped "a string" v

/-- Reads a truth value. -/
def boolean : Decoder Bool where
  ofText _ cs :=
    match skipSpace cs with
    | 't' :: rest => do return (true, ← expectChars ['r', 'u', 'e'] rest)
    | 'f' :: rest => do return (false, ← expectChars ['a', 'l', 's', 'e'] rest)
    | cs => mistypedText "a boolean" cs
  ofValue
    | .bool b => .ok b
    | v => mistyped "a boolean" v

/-- The whole number within bounds that a JSON number is. -/
def boundedInt (low high : Int) (expected : String) (n : Number) : Except Error Int :=
  match n.toInt? with
  | none => misshaped (.wrongType n.found expected)
  | some i => if low ≤ i && i ≤ high then .ok i else misshaped (.wrongValue n.found expected)

/-- Reads a whole number within bounds. -/
def integer (low high : Int) (expected : String) : Decoder Int where
  ofText _ cs :=
    match skipSpace cs with
    | '-' :: rest => do
      let (n, rest) ← readNumber true rest
      return (← boundedInt low high expected n, rest)
    | cs =>
      if startsWithDigit cs then do
        let (n, rest) ← readNumber false cs
        return (← boundedInt low high expected n, rest)
      else mistypedText expected cs
  ofValue
    | .number n => boundedInt low high expected n
    | v => mistyped expected v

/-- Reads a whole number from zero up and below `size`; `name` is what such numbers are called. -/
def unsigned (size : Nat) (name : String) : Decoder Nat :=
  (integer 0 (size - 1 : Nat) name).map Int.toNat

/-- Reads a byte. -/
def byte : Decoder UInt8 := (unsigned UInt8.size "u8").map UInt8.ofNat

/-- Reads a value that may be `null`. -/
def optional (d : Decoder α) : Decoder (Option α) where
  ofText levels cs :=
    match skipSpace cs with
    | 'n' :: rest => do return (none, ← expectChars ['u', 'l', 'l'] rest)
    | cs => do
      let (a, rest) ← d.ofText levels cs
      return (some a, rest)
  ofValue
    | .null => .ok none
    | v => do return some (← d.ofValue v)

/-- Reads any value and then picks what it stands for. -/
def picking (type : String) (pick : Json → Option α) : Decoder α :=
  let pickFrom (v : Json) : Except Error α :=
    match pick v with
    | some a => .ok a
    | none => misshaped (.noVariant type)
  { ofText := fun levels cs => do
      let (v, rest) ← readValue levels cs
      return (← pickFrom v, rest)
    ofValue := pickFrom }

end Decoder

/-! ## Records -/

/-- One field of a record that is read into `β`. -/
structure RecordField (β : Type) where
  name : String
  /-- Reads the field and puts it in its place. -/
  decoder : Decoder (β → β)
  /-- Whether the field has been read. -/
  isRead : β → Bool

/-- A field that `β` holds as an option until it is read. -/
def field {α β : Type} (name : String) (d : Decoder α) (get : β → Option α)
    (set : α → β → β) : RecordField β where
  name := name
  decoder := d.map set
  isRead b := (get b).isSome

/-- The value of a field that has to be there, or the field's name. -/
def needed {α : Type} (name : String) : Option α → Except String α
  | some a => .ok a
  | none => .error name

/-- An object with fixed fields, read into `β` and then made into `α`. -/
structure Record (α β : Type) where
  name : String
  fields : List (RecordField β)
  /-- What is there before any field is read. -/
  blank : β
  /-- The finished record, or the first field in order that has to be there and is not. -/
  finish : β → Except String α

namespace Record

variable {α β : Type}

def find? (r : Record α β) (key : String) : Option (RecordField β) :=
  r.fields.find? fun f => f.name = key

/-- The finished record of an object. -/
def finishObject (r : Record α β) (b : β) : Except Error α :=
  match r.finish b with
  | .ok a => .ok a
  | .error name => misshaped (.missingField name)

/-- The finished record of an array. -/
def finishArray (r : Record α β) (b : β) : Except Error α :=
  match r.finish b with
  | .ok a => .ok a
  | .error name =>
    misshaped (.wrongLength (r.fields.findIdx fun f => f.name = name)
      ("struct " ++ r.name ++ " with " ++ Text.decimalText r.fields.length ++ " elements"))

/-- Reads members from text after the brace; `fuel` exceeds the length of the text. -/
def readMembers (r : Record α β) (levels : Nat) :
    (fuel : Nat) → (first : Bool) → β → List Char → Except Error (α × List Char)
  | 0, _, _, _ => refuse .endInObject
  | fuel + 1, first, b, cs => do
    match ← nextKey first cs with
    | .close rest => return (← r.finishObject b, rest)
    | .more inner =>
      let (key, rest) ← readText inner
      match r.find? key with
      | none => r.readMembers levels fuel false b (← skipValue (← afterColon rest))
      | some f =>
        if f.isRead b then misshaped (.duplicateField f.name)
        else
          let (set, rest) ← f.decoder.ofText levels (← afterColon rest)
          r.readMembers levels fuel false (set b) rest

/-- Reads fields in order from text after the bracket. -/
def readElements (r : Record α β) (levels : Nat) :
    List (RecordField β) → (first : Bool) → β → List Char → Except Error (α × List Char)
  | [], _, b, cs => do
    let a ← r.finishArray b
    return (a, ← endOfItems cs)
  | f :: fs, first, b, cs => do
    match ← nextItem first cs with
    | .close rest => return (← r.finishArray b, rest)
    | .more item =>
      let (set, rest) ← f.decoder.ofText levels item
      r.readElements levels fs false (set b) rest

/-- Reads the members of an object in the order of their keys. -/
def takeMembers (r : Record α β) : β → List (String × Json) → Except Error β
  | b, [] => .ok b
  | b, (key, v) :: rest =>
    match r.find? key with
    | none => r.takeMembers b rest
    | some f => do
      let set ← f.decoder.ofValue v
      r.takeMembers (set b) rest

/-- Reads the items of an array as the fields in order: what was read, and what is left. -/
def takeElements : List (RecordField β) → β → List Json → Except Error (β × List Json)
  | f :: fs, b, v :: vs => do
    let set ← f.decoder.ofValue v
    takeElements fs (set b) vs
  | _, b, vs => .ok (b, vs)

/-- Reads a record. -/
def decoder (r : Record α β) : Decoder α where
  ofText levels cs :=
    match skipSpace cs with
    | '\x7b' :: rest =>
      match levels with
      | 0 => refuse .nestedTooDeeply
      | levels + 1 => r.readMembers levels (rest.length + 1) true r.blank rest
    | '[' :: rest =>
      match levels with
      | 0 => refuse .nestedTooDeeply
      | levels + 1 => r.readElements levels r.fields true r.blank rest
    | cs => mistypedText ("struct " ++ r.name) cs
  ofValue
    | .members fields => do r.finishObject (← r.takeMembers r.blank fields)
    | .array items => do
      let (b, left) ← takeElements r.fields r.blank items
      let a ← r.finishArray b
      if left.isEmpty then return a
      else misshaped (.wrongLength items.length "fewer elements in array")
    | v => mistyped ("struct " ++ r.name) v

end Record

/-! ## Maps and whole texts -/

/-- Reads the members of a map from text after the brace; `fuel` exceeds the length of the text. -/
def readEntries {α : Type} (d : Decoder α) (levels : Nat) :
    (fuel : Nat) → (first : Bool) → NameMap α → List Char →
      Except Error (NameMap α × List Char)
  | 0, _, _, _ => refuse .endInObject
  | fuel + 1, first, done, cs => do
    match ← nextKey first cs with
    | .close rest => return (done, rest)
    | .more inner =>
      let (key, rest) ← readText inner
      let (a, rest) ← d.ofText levels (← afterColon rest)
      readEntries d levels fuel false (NameMap.insert key a done) rest

/-- Reads an object whose keys are names; of two members with a key the later counts. -/
def Decoder.nameMap {α : Type} (d : Decoder α) : Decoder (NameMap α) where
  ofText levels cs :=
    match skipSpace cs with
    | '\x7b' :: rest =>
      match levels with
      | 0 => refuse .nestedTooDeeply
      | levels + 1 => readEntries d levels (rest.length + 1) true [] rest
    | cs => mistypedText "a map" cs
  ofValue
    | .members fields => fields.mapM fun (key, v) => do return (key, ← d.ofValue v)
    | v => mistyped "a map" v

/-- The value of a whole text. -/
def Decoder.decode {α : Type} (d : Decoder α) (s : String) : Except Error α := do
  let (a, rest) ← d.ofText maxLevels s.toList
  endOfText rest
  return a

end Json

end ConsoleLink
