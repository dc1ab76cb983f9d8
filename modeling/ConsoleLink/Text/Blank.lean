/-! # Blank characters, and cutting text at them

A character is blank if it has the Unicode property White_Space. `trim` takes the blanks off both
ends of a text, `words` gives the runs between blanks, and `splitOn` is the cut that `words`, lists
separated by commas and file paths share.
-/

namespace ConsoleLink.Text

/-- The Unicode property White_Space. -/
def isBlank (c : Char) : Bool :=
  let n := c.toNat
  (0x09 ≤ n && n ≤ 0x0D) || n == 0x20 || n == 0x85 || n == 0xA0 || n == 0x1680 ||
    (0x2000 ≤ n && n ≤ 0x200A) || n == 0x2028 || n == 0x2029 || n == 0x202F || n == 0x205F ||
    n == 0x3000

def trimStart (cs : List Char) : List Char := cs.dropWhile isBlank

def trimEnd (cs : List Char) : List Char := (cs.reverse.dropWhile isBlank).reverse

def trimChars (cs : List Char) : List Char := trimEnd (trimStart cs)

/-- The text without the blanks at either end. -/
def trim (s : String) : String := String.ofList (trimChars s.toList)

/-- The pieces between the characters that `stop` accepts; there is one more piece than stops. -/
def splitOn (stop : Char → Bool) : List Char → List (List Char)
  | [] => [[]]
  | c :: cs =>
    if stop c then [] :: splitOn stop cs
    else match splitOn stop cs with
      | [] => [[c]]
      | piece :: pieces => (c :: piece) :: pieces

/-- The maximal runs of characters that are not blank. -/
def words (cs : List Char) : List (List Char) :=
  (splitOn isBlank cs).filter fun piece => !piece.isEmpty

end ConsoleLink.Text
