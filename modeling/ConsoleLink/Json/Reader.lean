import ConsoleLink.Json.Error
import ConsoleLink.Json.Value

/-! # Reading JSON text

Each reader takes the text from where it stands and gives what it read with the rest, or the fault
at the first character that cannot belong to it. `value` reads any value; `skipValue` only passes
over one, for which neither the depth of nesting nor the range of numbers matters. `nextItem`,
`nextKey` and `afterColon` are the punctuation, which readers of one fixed shape use too.
-/

namespace ConsoleLink.Json

/-- A reader's answer: what it read and what is left of the text. -/
abbrev Reading (α : Type) := Except Error (α × List Char)

/-- The refusal of a text. -/
def refuse {α : Type} (fault : TextFault) : Except Error α := .error (.badText fault)

/-- The blanks between tokens are four characters only. -/
def isSpace (c : Char) : Bool := c = ' ' || c = '\n' || c = '\t' || c = '\r'

def skipSpace (cs : List Char) : List Char := cs.dropWhile isSpace

/-- Passes over the characters of a literal. -/
def expectChars : List Char → List Char → Except Error (List Char)
  | [], cs => .ok cs
  | _ :: _, [] => refuse .endInValue
  | e :: es, c :: cs => if c = e then expectChars es cs else refuse .expectedIdent

/-! ## Strings -/

/-- The character that a backslash and a letter stand for. -/
def unescaped? : Char → Option Char
  | '"' => some '"'
  | '\\' => some '\\'
  | '/' => some '/'
  | 'b' => some (Char.ofNat 8)
  | 'f' => some (Char.ofNat 12)
  | 'n' => some '\n'
  | 'r' => some '\r'
  | 't' => some '\t'
  | _ => none

/-- The number that four digits of base sixteen write. -/
def quad? (a b c d : Char) : Option Nat := Text.digitsValue? 16 0 [a, b, c, d]

/-- The fault of a text that does not go on with four digits of base sixteen: it is over if it has
fewer than four bytes left. -/
def quadFault (cs : List Char) : TextFault :=
  if 4 ≤ (String.ofList (cs.take 4)).utf8ByteSize then .invalidEscape else .endInString

def isHighSurrogate (n : Nat) : Bool := 0xD800 ≤ n && n ≤ 0xDBFF

def isLowSurrogate (n : Nat) : Bool := 0xDC00 ≤ n && n ≤ 0xDFFF

/-- The character that a pair of surrogates encodes. -/
def surrogatePair (high low : Nat) : Char :=
  Char.ofNat (0x10000 + (high - 0xD800) * 0x400 + (low - 0xDC00))

/-- Reads a string after its opening quote; `done` holds, last first, the characters so far. -/
def readTextFrom (done : List Char) : List Char → Reading String
  | [] => refuse .endInString
  | '"' :: rest => .ok (String.ofList done.reverse, rest)
  | '\\' :: 'u' :: a :: b :: c :: d :: rest =>
    match quad? a b c d with
    | none => refuse .invalidEscape
    | some n =>
      if isLowSurrogate n then refuse .loneSurrogate
      else if isHighSurrogate n then
        match rest with
        | '\\' :: 'u' :: a :: b :: c :: d :: rest =>
          match quad? a b c d with
          | none => refuse .invalidEscape
          | some m =>
            if isLowSurrogate m then readTextFrom (surrogatePair n m :: done) rest
            else refuse .loneSurrogate
        | '\\' :: 'u' :: digits => refuse (quadFault digits)
        | ['\\'] => refuse .endInString
        | [] => refuse .endInString
        | _ => refuse .unpairedSurrogate
      else readTextFrom (Char.ofNat n :: done) rest
  | '\\' :: 'u' :: digits => refuse (quadFault digits)
  | '\\' :: c :: rest =>
    match unescaped? c with
    | some e => readTextFrom (e :: done) rest
    | none => refuse .invalidEscape
  | ['\\'] => refuse .endInString
  | c :: rest =>
    if c.toNat < 0x20 then refuse .controlCharacter else readTextFrom (c :: done) rest

/-- Reads a string after its opening quote. -/
def readText (cs : List Char) : Reading String := readTextFrom [] cs

/-- Passes over a string after its opening quote. Surrogates need no partner here. -/
def skipText : List Char → Except Error (List Char)
  | [] => refuse .endInString
  | '"' :: rest => .ok rest
  | '\\' :: 'u' :: a :: b :: c :: d :: rest =>
    match quad? a b c d with
    | none => refuse .invalidEscape
    | some _ => skipText rest
  | '\\' :: 'u' :: digits => refuse (quadFault digits)
  | '\\' :: c :: rest =>
    match unescaped? c with
    | some _ => skipText rest
    | none => refuse .invalidEscape
  | ['\\'] => refuse .endInString
  | c :: rest => if c.toNat < 0x20 then refuse .controlCharacter else skipText rest

/-! ## Numbers

A number is read as its first digits that fit in 64 bits and a power of ten.
-/

def digit? (c : Char) : Option Nat := Text.digitValue? 10 c

def startsWithDigit : List Char → Bool
  | c :: _ => (digit? c).isSome
  | [] => false

/-- Takes digits as long as the number stays within 64 bits: the number, how many digits were
taken, and the rest. -/
def takeDigits (n taken : Nat) : List Char → Nat × Nat × List Char
  | [] => (n, taken, [])
  | c :: cs =>
    match digit? c with
    | none => (n, taken, c :: cs)
    | some d =>
      if n * 10 + d < UInt64.size then takeDigits (n * 10 + d) (taken + 1) cs
      else (n, taken, c :: cs)

/-- Passes over digits and counts them. -/
def dropDigits (dropped : Nat) : List Char → Nat × List Char
  | [] => (dropped, [])
  | c :: cs => if (digit? c).isSome then dropDigits (dropped + 1) cs else (dropped, c :: cs)

/-- The double for digits and a power of ten. -/
def floating (negative : Bool) (n : Nat) (e : Int) (rest : List Char) : Reading Number :=
  match Decimal.ofScaled negative (UInt64.ofNat n) e with
  | some bits => .ok (.float bits, rest)
  | none => refuse .numberOutOfRange

/-- Reads an exponent after its letter; `e` is the power of ten so far. -/
def readExponent (negative : Bool) (n : Nat) (e : Int) (cs : List Char) : Reading Number :=
  let (down, digits) := match cs with
    | '+' :: rest => (false, rest)
    | '-' :: rest => (true, rest)
    | _ => (false, cs)
  match digits with
  | [] => refuse .endInValue
  | c :: _ =>
    if (digit? c).isNone then refuse .invalidNumber
    else
      let (_, rest) := dropDigits 0 digits
      let x := (Text.digitsValue? 10 0 (digits.take (digits.length - rest.length))).getD 0
      floating negative n (if down then e - x else e + x) rest

/-- Reads what follows the digits of a number that is a double in any case. -/
def readTail (negative : Bool) (n : Nat) (e : Int) : List Char → Reading Number
  | 'e' :: rest => readExponent negative n e rest
  | 'E' :: rest => readExponent negative n e rest
  | rest => floating negative n e rest

/-- Reads the digits after a point. Digits that no longer fit are dropped. -/
def readFraction (negative : Bool) (n : Nat) (e : Int) (cs : List Char) : Reading Number :=
  let (n, taken, rest) := takeDigits n 0 cs
  if startsWithDigit rest then readTail negative n (e - taken) (dropDigits 0 rest).2
  else if taken = 0 then
    if rest.isEmpty then refuse .endInValue else refuse .invalidNumber
  else readTail negative n (e - taken) rest

/-- A whole number that fits in 64 bits, or the double for it; there is no whole `-0`. -/
def wholeNumber (negative : Bool) (n : Nat) (rest : List Char) : Reading Number :=
  if negative then
    if h : 0 < n ∧ n ≤ 0x8000000000000000 then .ok (.negative ⟨n - 1, by omega⟩, rest)
    else floating true n 0 rest
  else .ok (.natural (UInt64.ofNat n), rest)

/-- Reads what follows the whole part of a number. -/
def readAfterWhole (negative : Bool) (n : Nat) : List Char → Reading Number
  | '.' :: rest => readFraction negative n 0 rest
  | 'e' :: rest => readExponent negative n 0 rest
  | 'E' :: rest => readExponent negative n 0 rest
  | rest => wholeNumber negative n rest

/-- Reads a number after its sign. -/
def readNumber (negative : Bool) (cs : List Char) : Reading Number :=
  match cs with
  | [] => refuse .endInValue
  | '0' :: rest =>
    if startsWithDigit rest then refuse .invalidNumber else readAfterWhole negative 0 rest
  | c :: _ =>
    if (digit? c).isNone then refuse .invalidNumber
    else
      let (n, _, rest) := takeDigits 0 0 cs
      let (dropped, rest) := dropDigits 0 rest
      if dropped = 0 then readAfterWhole negative n rest
      else match rest with
        | '.' :: rest => readFraction negative n dropped rest
        | _ => readTail negative n dropped rest

/-- Passes over an exponent after its letter. -/
def skipExponent (cs : List Char) : Except Error (List Char) :=
  let digits := match cs with
    | '+' :: rest => rest
    | '-' :: rest => rest
    | _ => cs
  if startsWithDigit digits then .ok (dropDigits 0 digits).2 else refuse .invalidNumber

/-- Passes over what follows the whole part of a number. -/
def skipAfterWhole (cs : List Char) : Except Error (List Char) :=
  match cs with
  | '.' :: rest =>
    if startsWithDigit rest then
      match (dropDigits 0 rest).2 with
      | 'e' :: rest => skipExponent rest
      | 'E' :: rest => skipExponent rest
      | rest => .ok rest
    else refuse .invalidNumber
  | 'e' :: rest => skipExponent rest
  | 'E' :: rest => skipExponent rest
  | rest => .ok rest

/-- Passes over a number after its sign. -/
def skipNumber (cs : List Char) : Except Error (List Char) :=
  match cs with
  | '0' :: rest =>
    if startsWithDigit rest then refuse .invalidNumber else skipAfterWhole rest
  | _ =>
    if startsWithDigit cs then skipAfterWhole (dropDigits 0 cs).2 else refuse .invalidNumber

/-! ## Punctuation -/

/-- What comes next in an array or object. -/
inductive Next where
  /-- An item or, after its opening quote, a key. -/
  | more (cs : List Char)
  /-- The end; the text after the bracket. -/
  | close (cs : List Char)

/-- The next item of an array; `first` if none has been read. -/
def nextItem (first : Bool) (cs : List Char) : Except Error Next :=
  match skipSpace cs with
  | [] => refuse .endInList
  | ']' :: rest => .ok (.close rest)
  | c :: rest =>
    if first then .ok (.more (c :: rest))
    else if c = ',' then
      match skipSpace rest with
      | [] => refuse .endInValue
      | ']' :: _ => refuse .trailingComma
      | item => .ok (.more item)
    else refuse .expectedListCommaOrEnd

/-- The next key of an object; `first` if none has been read. -/
def nextKey (first : Bool) (cs : List Char) : Except Error Next :=
  match skipSpace cs with
  | [] => refuse .endInObject
  | '\x7d' :: rest => .ok (.close rest)
  | c :: rest =>
    if first then if c = '"' then .ok (.more rest) else refuse .keyMustBeText
    else if c = ',' then
      match skipSpace rest with
      | [] => refuse .endInValue
      | '"' :: key => .ok (.more key)
      | '\x7d' :: _ => refuse .trailingComma
      | _ => refuse .keyMustBeText
    else refuse .expectedObjectCommaOrEnd

/-- Passes over the colon after a key. -/
def afterColon (cs : List Char) : Except Error (List Char) :=
  match skipSpace cs with
  | [] => refuse .endInObject
  | ':' :: rest => .ok rest
  | _ => refuse .expectedColon

/-- Passes over the end of an array that may hold no further item. -/
def endOfItems (cs : List Char) : Except Error (List Char) :=
  match skipSpace cs with
  | [] => refuse .endInList
  | ']' :: rest => .ok rest
  | ',' :: rest =>
    match skipSpace rest with
    | ']' :: _ => refuse .trailingComma
    | _ => refuse .trailingCharacters
  | _ => refuse .trailingCharacters

/-- Nothing but blanks may follow a whole text's value. -/
def endOfText (cs : List Char) : Except Error Unit :=
  if (skipSpace cs).isEmpty then .ok () else refuse .trailingCharacters

/-! ## Values -/

/-- How many arrays and objects may stand inside each other. -/
def maxLevels : Nat := 127

mutual

/-- Reads a value; `levels` more arrays and objects may be entered, and `fuel` exceeds twice the
length of the text. -/
def readValueWith (fuel levels : Nat) (cs : List Char) : Reading Json :=
  match fuel with
  | 0 => refuse .endInValue
  | fuel + 1 =>
    match skipSpace cs with
    | [] => refuse .endInValue
    | 'n' :: rest => (expectChars ['u', 'l', 'l'] rest).map (.null, ·)
    | 't' :: rest => (expectChars ['r', 'u', 'e'] rest).map (.bool true, ·)
    | 'f' :: rest => (expectChars ['a', 'l', 's', 'e'] rest).map (.bool false, ·)
    | '-' :: rest => (readNumber true rest).map fun r => (.number r.1, r.2)
    | '"' :: rest => (readText rest).map fun r => (.text r.1, r.2)
    | '[' :: rest =>
      match levels with
      | 0 => refuse .nestedTooDeeply
      | levels + 1 =>
        (readItemsWith fuel levels true [] rest).map fun r => (.array r.1, r.2)
    | '\x7b' :: rest =>
      match levels with
      | 0 => refuse .nestedTooDeeply
      | levels + 1 =>
        (readFieldsWith fuel levels true [] rest).map fun r => (.members r.1, r.2)
    | c :: rest =>
      if (digit? c).isSome then (readNumber false (c :: rest)).map fun r => (.number r.1, r.2)
      else refuse .expectedValue

/-- Reads the items of an array after its bracket; `done` holds, last first, those read. -/
def readItemsWith (fuel levels : Nat) (first : Bool) (done : List Json) (cs : List Char) :
    Except Error (List Json × List Char) :=
  match fuel with
  | 0 => refuse .endInList
  | fuel + 1 => do
    match ← nextItem first cs with
    | .close rest => return (done.reverse, rest)
    | .more item =>
      let (v, rest) ← readValueWith fuel levels item
      readItemsWith fuel levels false (v :: done) rest

/-- Reads the members of an object after its brace; `done` holds those read. -/
def readFieldsWith (fuel levels : Nat) (first : Bool) (done : NameMap Json) (cs : List Char) :
    Except Error (NameMap Json × List Char) :=
  match fuel with
  | 0 => refuse .endInObject
  | fuel + 1 => do
    match ← nextKey first cs with
    | .close rest => return (done, rest)
    | .more inner =>
      let (key, rest) ← readText inner
      let (v, rest) ← readValueWith fuel levels (← afterColon rest)
      readFieldsWith fuel levels false (NameMap.insert key v done) rest

end

/-- Reads a value in which `levels` arrays and objects may stand inside each other. -/
def readValue (levels : Nat) (cs : List Char) : Reading Json :=
  readValueWith (2 * cs.length + 1) levels cs

/-- The value that a whole text writes. -/
def parse (s : String) : Except Error Json := do
  let (v, rest) ← readValue maxLevels s.toList
  endOfText rest
  return v

/-! ## Values passed over -/

/-- The kind of container that a skipped value stands in. -/
inductive Bracket where
  | list
  | object

mutual

/-- Passes over a value and what closes the containers around it; `fuel` exceeds the length of the
text. -/
def skipInto (fuel : Nat) (around : List Bracket) (cs : List Char) : Except Error (List Char) :=
  match fuel with
  | 0 => refuse .endInValue
  | fuel + 1 =>
    match skipSpace cs with
    | [] => refuse .endInValue
    | 'n' :: rest => do skipOut fuel true around (← expectChars ['u', 'l', 'l'] rest)
    | 't' :: rest => do skipOut fuel true around (← expectChars ['r', 'u', 'e'] rest)
    | 'f' :: rest => do skipOut fuel true around (← expectChars ['a', 'l', 's', 'e'] rest)
    | '-' :: rest => do skipOut fuel true around (← skipNumber rest)
    | '"' :: rest => do skipOut fuel true around (← skipText rest)
    | '[' :: rest => skipOut fuel false (.list :: around) rest
    | '\x7b' :: rest => skipOut fuel false (.object :: around) rest
    | c :: rest =>
      if (digit? c).isSome then do skipOut fuel true around (← skipNumber (c :: rest))
      else refuse .expectedValue

/-- Goes on inside the innermost container; a comma may come if `after` an item. -/
def skipOut (fuel : Nat) (after : Bool) (around : List Bracket) (cs : List Char) :
    Except Error (List Char) :=
  match fuel, around with
  | 0, _ => refuse .endInValue
  | _, [] => .ok cs
  | fuel + 1, .list :: outer =>
    match skipSpace cs with
    | [] => refuse .endInList
    | ']' :: rest => skipOut fuel true outer rest
    | ',' :: rest =>
      if after then skipInto fuel (.list :: outer) rest
      else skipInto fuel (.list :: outer) (',' :: rest)
    | c :: rest =>
      if after then refuse .expectedListCommaOrEnd
      else skipInto fuel (.list :: outer) (c :: rest)
  | fuel + 1, .object :: outer =>
    match skipSpace cs with
    | [] => refuse .endInObject
    | '\x7d' :: rest => skipOut fuel true outer rest
    | ',' :: rest =>
      if after then skipMember fuel outer rest else skipMember fuel outer (',' :: rest)
    | c :: rest =>
      if after then refuse .expectedObjectCommaOrEnd else skipMember fuel outer (c :: rest)

/-- Passes over a member of the innermost object. -/
def skipMember (fuel : Nat) (outer : List Bracket) (cs : List Char) : Except Error (List Char) :=
  match fuel with
  | 0 => refuse .endInObject
  | fuel + 1 =>
    match skipSpace cs with
    | [] => refuse .endInObject
    | '"' :: rest => do
      let rest ← skipText rest
      skipInto fuel (.object :: outer) (← afterColon rest)
    | _ => refuse .keyMustBeText

end

/-- Passes over a value. -/
def skipValue (cs : List Char) : Except Error (List Char) :=
  skipInto (3 * cs.length + 3) [] cs

end ConsoleLink.Json
