import NodeGraph.Number.Double
import NodeGraph.Text.Blank
import NodeGraph.Text.Digit
import NodeGraph.Text.LetterCase

/-!
# Reading numbers

The grammars by which a text is read as a number. `Double.readPlain?` is the strict one, ASCII
digits without separators. `Double.readLenient?` is the one for values that people typed: white
space around the number, digits of any script, and single underscores between digits.
-/

namespace NodeGraph

/-- The digits at the start of a text and what follows them. -/
def spanDigits : List Char → List Nat × List Char
  | [] => ([], [])
  | c :: cs =>
    match asciiDigit? c with
    | some d => let (digits, rest) := spanDigits cs; (d :: digits, rest)
    | none => ([], c :: cs)

/-- A sign at the start of a text, `true` for minus, and what follows it. -/
def splitSign : List Char → Bool × List Char
  | '-' :: cs => (true, cs)
  | '+' :: cs => (false, cs)
  | cs => (false, cs)

/-- An exponent part, or nothing at all. -/
def readExponent? : List Char → Option Int
  | [] => some 0
  | mark :: cs =>
    if mark = 'e' ∨ mark = 'E' then
      let (negative, cs) := splitSign cs
      match spanDigits cs with
      | ([], _) => none
      | (digits, []) =>
        let n : Int := ofDigits 10 digits
        some (if negative then -n else n)
      | _ => none
    else none

/-- The digits behind a point, if there is one, and the rest. -/
def splitFraction : List Char → List Nat × List Char
  | '.' :: cs => spanDigits cs
  | cs => ([], cs)

/-- A decimal with digits on at least one side of an optional point, and an optional exponent. -/
def readDecimal? (negative : Bool) (cs : List Char) : Option Double :=
  let (whole, rest) := spanDigits cs
  let (fraction, rest) := splitFraction rest
  if whole.isEmpty && fraction.isEmpty then none
  else (readExponent? rest).map fun exponent =>
    Double.ofDecimal negative (ofDigits 10 (whole ++ fraction)) (exponent - fraction.length)

/-- A sign, then a decimal or one of the words for infinity and not-a-number, in any case. -/
def Double.readPlain? (cs : List Char) : Option Double :=
  let (negative, body) := splitSign cs
  let word := body.map asciiLower
  if word = "inf".toList ∨ word = "infinity".toList then some (.infinity negative)
  else if word = "nan".toList then some .nan
  else readDecimal? negative body

/-- The text without its underscores, each of which has to stand between two digits. -/
def dropSeparators? (previous : Option Char) : List Char → Option (List Char)
  | [] => if previous = some '_' then none else some []
  | c :: cs =>
    let isDigit (c : Char) := (asciiDigit? c).isSome
    if c = '_' then
      if previous.any isDigit then dropSeparators? (some c) cs else none
    else if previous = some '_' ∧ ¬isDigit c then none
    else (dropSeparators? (some c) cs).map (c :: ·)

/-- A digit of any script as the ASCII digit of its value. -/
def foldDigit (c : Char) : Char :=
  match digitValue? c with
  | some d => Char.ofNat (48 + d)
  | none => c

/-- A number between white space, with digits of any script and underscores between digits. -/
def Double.readLenient? (s : String) : Option Double :=
  (dropSeparators? none ((trimChars isUnicodeSpace s.toList).map foldDigit)).bind Double.readPlain?

def isAsciiBlank (c : Char) : Bool := c = ' ' || (9 ≤ c.toNat && c.toNat ≤ 13)

/-- The same for bytes, which hold a number only in ASCII. -/
def Double.readBytes? (bs : List UInt8) : Option Double :=
  let cs := bs.map fun b => Char.ofNat b.toNat
  (dropSeparators? none (trimChars isAsciiBlank cs)).bind Double.readPlain?

/-- The text without its underscores, which may stand anywhere but at either end or in a row. -/
def stripUnderscores? (cs : List Char) : Option (List Char) :=
  let doubled := (cs.zip cs.tail).any fun (a, b) => a = '_' && b = '_'
  if cs.head? = some '_' ∨ cs.getLast? = some '_' ∨ doubled then none
  else some (cs.filter (· ≠ '_'))

/-- The double in a text field of a document: plain between white space, or plain with
underscores. -/
def Double.readField? (s : String) : Option Double :=
  match Double.readPlain? (trimChars isUnicodeSpace s.toList) with
  | some x => some x
  | none => (stripUnderscores? s.toList).bind Double.readPlain?

/-- An unsigned run of digits as a number. -/
def readNat? (cs : List Char) : Option Nat :=
  match spanDigits cs with
  | ([], _) => none
  | (digits, []) => some (ofDigits 10 digits)
  | _ => none

/-- A run of digits after an optional sign. -/
def readInt? (cs : List Char) : Option Int :=
  let (negative, body) := splitSign cs
  (readNat? body).map fun n => if negative then -(n : Int) else n

/-- The digits without leading zeros, among which underscores may stand. What is left starts with
another digit, or is the zero or underscore at the very end; a minus keeps everything. -/
def stripZeros? : List Char → Option (List Char)
  | '-' :: cs => some ('-' :: cs)
  | '0' :: cs =>
    let isFiller (c : Char) := c = '0' || c = '_'
    match cs.dropWhile isFiller with
    | [] => ('0' :: cs).getLast?.map ([·])
    | c :: rest => if '1' ≤ c ∧ c ≤ '9' then some (c :: rest) else none
  | c :: cs => if '1' ≤ c ∧ c ≤ '9' then some (c :: cs) else none
  | [] => none

/-- The part before a point that only zeros follow. -/
def stripFraction? (cs : List Char) : Option (List Char) :=
  match cs.dropWhile (· ≠ '.') with
  | [] => some cs
  | _ :: zeros => if zeros.all (· = '0') then some (cs.takeWhile (· ≠ '.')) else none

/-- The integer in a text field of a document: between white space, with a sign, underscores and a
fraction of zeros; behind a minus there are no leading zeros. -/
def readIntField? (s : String) : Option Int := do
  let cs := trimChars isUnicodeSpace s.toList
  let cs := if cs.head? = some '+' ∧ cs.tail.head? ≠ some '-' then cs.tail else cs
  let cs ← stripZeros? (← stripFraction? cs)
  let cs := (stripUnderscores? cs).getD cs
  match cs with
  | '-' :: '0' :: _ :: _ => none
  | '+' :: _ => none
  | _ => readInt? cs

end NodeGraph
