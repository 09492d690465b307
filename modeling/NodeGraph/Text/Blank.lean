/-!
# Blank characters

The characters that count as blank around a value, and trimming them. `isBlank` is the wide
class: Unicode's white space together with the four separators `U+001C` to `U+001F`.
`isUnicodeSpace` leaves those four out.
-/

namespace NodeGraph

/-- Unicode's property `White_Space`. -/
def isUnicodeSpace (c : Char) : Bool :=
  let n := c.toNat
  (9 ≤ n && n ≤ 13) || n == 0x20 || n == 0x85 || n == 0xA0 || n == 0x1680 ||
    (0x2000 ≤ n && n ≤ 0x200A) || n == 0x2028 || n == 0x2029 || n == 0x202F || n == 0x205F ||
    n == 0x3000

/-- White space, the information separators included. -/
def isBlank (c : Char) : Bool :=
  (0x1C ≤ c.toNat && c.toNat ≤ 0x1F) || isUnicodeSpace c

/-- The characters without those at either end that belong to the class. -/
def trimChars (p : Char → Bool) (cs : List Char) : List Char :=
  ((cs.dropWhile p).reverse.dropWhile p).reverse

/-- The text without blanks at either end. -/
def trimBlank (s : String) : String := String.ofList (trimChars isBlank s.toList)

def isBlankText (s : String) : Bool := s.toList.all isBlank

end NodeGraph
