import NodeGraph.Number.Shortest
import NodeGraph.Text.Digit
import NodeGraph.Value
import NodeGraph.Yaml.Cursor
import NodeGraph.Yaml.Tag

/-!
# Writing documents

The text of a plain value: blocks for mappings and sequences, indented by two, and each scalar in
the plainest style that reads back as the same value. A text is written plain where it cannot be
taken for something else, between single quotation marks where it is printable ASCII, and between
double ones with escapes otherwise. Long lines are broken at single spaces behind column 80.
-/

namespace NodeGraph.Yaml

namespace Printer

/-- The column behind which a line is broken. -/
def width : Nat := 80

/-- The length from which a key gets a line of its own, its tag included. -/
def keyLimit : Nat := 128

def tagLength : Nat := 5

def lineBreak (indent : Nat) : List Char := '\n' :: List.replicate indent ' '

/-! ## Choosing a style -/

/-- The line breaks among the characters that a text may hold. -/
def isTextBreak (c : Char) : Bool := c = '\n' || c = '\x85' || c = '\u2028' || c = '\u2029'

def isPlainAscii (c : Char) : Bool := ' ' ≤ c && c ≤ '~'

/-- Whether two neighbours satisfy the tests. -/
def hasPair (p q : Char → Bool) (cs : List Char) : Bool :=
  (cs.zip cs.tail).any fun (a, b) => p a && q b

/-- Whether an indicator makes the start of a text look like something else. -/
def startsLikeIndicator : List Char → Bool
  | [] => false
  | c :: rest =>
    "#,[]\x7b\x7d&*!|>'\"%@\x60".toList.contains c ||
      ((c = '?' || c = ':' || c = '-') && isGap (rest.headD '\x00')) ||
      ['-', '-', '-'].isPrefixOf (c :: rest) || ['.', '.', '.'].isPrefixOf (c :: rest)

/-- Whether a colon before a gap or a number sign behind one stands inside a text. -/
def holdsIndicator (cs : List Char) : Bool :=
  hasPair (· = ':') isGap cs.tail || (cs.length ≠ 1 && cs.getLast? = some ':') ||
    hasPair isGap (· = '#') cs

/-- Whether the characters allow a text to be written without quotation marks. -/
def allowsPlain (cs : List Char) : Bool :=
  cs.all isPlainAscii && cs.head? ≠ some ' ' && cs.getLast? ≠ some ' ' &&
    !startsLikeIndicator cs && !holdsIndicator cs

/-- Whether a text can stand between single quotation marks: printable ASCII and line breaks, with
no space beside a line break. -/
def allowsSingle (cs : List Char) : Bool :=
  cs.all (fun c => isPlainAscii c || c = '\n') && !hasPair (· = '\n') (· = ' ') cs &&
    !hasPair (· = ' ') (· = '\n') cs

inductive Style where
  | plain
  | single
  | double
  deriving DecidableEq

/-- The style of a text; a key on one line with its value has no line breaks. -/
def styleOf (isKey : Bool) (s : String) : Style :=
  let cs := s.toList
  if Tag.ofPlain s = .str && allowsPlain cs then .plain
  else if allowsSingle cs && !(isKey && cs.any isTextBreak) then .single
  else .double

/-! ## Scalars -/

/-- The characters of a plain text from `column` on. `isSpaced` holds behind a space. -/
def plainFrom (split : Bool) (indent : Nat) : Nat → List Char → List Char
  | _, [] => []
  | column, ' ' :: ' ' :: rest =>
    let spaces := (rest.takeWhile (· = ' ')).length
    ' ' :: ' ' :: (rest.take spaces ++
      plainFrom split indent (column + 2 + spaces) (rest.drop spaces))
  | column, ' ' :: rest =>
    if split ∧ width < column then lineBreak indent ++ plainFrom split indent indent rest
    else ' ' :: plainFrom split indent (column + 1) rest
  | column, c :: rest => c :: plainFrom split indent (column + 1) rest
  termination_by _ cs => cs.length
  decreasing_by all_goals simp_all <;> omega

/-- The characters between single quotation marks from `column` on. `first` holds at the start. -/
def singleFrom (split : Bool) (indent : Nat) (first : Bool) : Nat → List Char → List Char
  | _, [] => []
  | _, '\n' :: rest =>
    let breaks := (rest.takeWhile (· = '\n')).length
    '\n' :: (List.replicate breaks '\n' ++ lineBreak indent ++
      singleFrom split indent false indent (rest.drop breaks))
  | column, ' ' :: ' ' :: rest =>
    let spaces := (rest.takeWhile (· = ' ')).length
    ' ' :: ' ' :: (rest.take spaces ++
      singleFrom split indent false (column + 2 + spaces) (rest.drop spaces))
  | column, ' ' :: rest =>
    if split ∧ width < column ∧ ¬first ∧ rest ≠ [] then
      lineBreak indent ++ singleFrom split indent false indent rest
    else ' ' :: singleFrom split indent false (column + 1) rest
  | column, c :: rest =>
    if c = '\x27' then c :: c :: singleFrom split indent false (column + 2) rest
    else c :: singleFrom split indent false (column + 1) rest
  termination_by _ cs => cs.length
  decreasing_by all_goals simp_all <;> omega

/-- The letter that stands for a character behind a backslash. -/
def escapeLetter? : Char → Option Char
  | '\x00' => some '0'
  | '\x07' => some 'a'
  | '\x08' => some 'b'
  | '\t' => some 't'
  | '\n' => some 'n'
  | '\x0B' => some 'v'
  | '\x0C' => some 'f'
  | '\r' => some 'r'
  | '\x1B' => some 'e'
  | '\x22' => some '\x22'
  | '\\' => some '\\'
  | '\x85' => some 'N'
  | '\xA0' => some '_'
  | '\u2028' => some 'L'
  | '\u2029' => some 'P'
  | _ => none

def upperHex (digits n : Nat) : List Char :=
  (hexText digits n).toList.map fun c =>
    if 'a' ≤ c ∧ c ≤ 'f' then Char.ofNat (c.toNat - 32) else c

/-- The escape for a character, if it needs one between double quotation marks. -/
def escapeOf? (c : Char) : Option (List Char) :=
  match escapeLetter? c with
  | some letter => some ['\\', letter]
  | none =>
    if isPlainAscii c then none
    else if c.toNat ≤ 0xFF then some ('\\' :: 'x' :: upperHex 2 c.toNat)
    else if c.toNat ≤ 0xFFFF then some ('\\' :: 'u' :: upperHex 4 c.toNat)
    else some ('\\' :: 'U' :: upperHex 8 c.toNat)

/-- A broken line inside double quotation marks ends in a backslash; a space that starts the next
line has one before it. -/
def escapedBreak (indent : Nat) (rest : List Char) : List Char :=
  '\\' :: lineBreak indent ++ (if rest.head? = some ' ' then ['\\'] else [])

def breakColumn (indent : Nat) (rest : List Char) : Nat :=
  if rest.head? = some ' ' then indent + 1 else indent

/-- The characters between double quotation marks from `column` on. A line is broken before a space
or behind an escape, but not at the first character nor before the last. -/
def doubleFrom (split : Bool) (indent : Nat) :
    Bool → Bool → Nat → List Char → List Char
  | _, _, _, [] => []
  | first, afterEscape, column, c :: rest =>
    let inside := split && !first && !rest.isEmpty
    match escapeOf? c with
    | some code =>
      let column := column + code.length
      if inside ∧ width + 1 < column then
        code ++ escapedBreak indent rest ++
          doubleFrom split indent false true (breakColumn indent rest) rest
      else code ++ doubleFrom split indent false true column rest
    | none =>
      if inside ∧ (c = ' ' ∨ afterEscape) ∧ width < column then
        escapedBreak indent (c :: rest) ++
          c :: doubleFrom split indent false false (breakColumn indent (c :: rest) + 1) rest
      else c :: doubleFrom split indent false false (column + 1) rest

/-- A text in its style, from `column` on; its lines are indented by `indent`. -/
def textAt (isKey : Bool) (indent column : Nat) (s : String) : List Char :=
  match styleOf isKey s with
  | .plain => plainFrom (!isKey) indent column s.toList
  | .single =>
    '\x27' :: singleFrom (!isKey) indent true (column + 1) s.toList ++ ['\x27']
  | .double =>
    '\x22' :: doubleFrom (!isKey) indent true false (column + 1) s.toList ++ ['\x22']

/-- A float has a point in front of its exponent, or in front of the name of a value that is not
finite. -/
def floatText : Double → List Char
  | .nan => ".nan".toList
  | .infinity negative => if negative then "-.inf".toList else ".inf".toList
  | x =>
    let cs := x.text.toList
    if cs.contains '.' || !cs.contains 'e' then cs
    else cs.takeWhile (· ≠ 'e') ++ ['.', '0'] ++ cs.dropWhile (· ≠ 'e')

/-- Whether a key stands on one line with its value. -/
def isSimpleKey (s : String) : Bool :=
  s ≠ "" && s.length + tagLength < keyLimit && !s.toList.any isTextBreak

/-! ## Blocks -/

/-- Where a value stands: behind a key, behind a hyphen, or behind the colon of a key that has its
own line. Behind a key a block starts on the next line, and a sequence is not indented further. -/
inductive Spot where
  | behindKey
  | behindMark
  deriving DecidableEq

mutual

/-- A value at a spot of a block indented by `indent`, with the space or line break before it. -/
def valueAt (spot : Spot) (indent column : Nat) : Value → List Char
  | .null => " null".toList
  | .bool b => if b then " true".toList else " false".toList
  | .int n => ' ' :: (toString n).toList
  | .float x => ' ' :: floatText x
  | .text s => ' ' :: textAt false (indent + 2) (column + 1) s
  | .list [] => " []".toList
  | .map [] => " \x7b\x7d".toList
  | .list (item :: items) =>
    match spot with
    | .behindKey =>
      lineBreak indent ++ '-' :: valueAt .behindMark indent (indent + 1) item ++
        itemsAt indent items
    | .behindMark =>
      ' ' :: '-' :: valueAt .behindMark (indent + 2) (indent + 3) item ++
        itemsAt (indent + 2) items
  | .map (pair :: pairs) =>
    match spot with
    | .behindKey =>
      lineBreak (indent + 2) ++ pairAt (indent + 2) pair ++ pairsAt (indent + 2) pairs
    | .behindMark => ' ' :: pairAt (indent + 2) pair ++ pairsAt (indent + 2) pairs
  | _ => " null".toList

/-- The further items of a sequence indented by `indent`. -/
def itemsAt (indent : Nat) : List Value → List Char
  | [] => []
  | item :: items =>
    lineBreak indent ++ '-' :: valueAt .behindMark indent (indent + 1) item ++
      itemsAt indent items

/-- A pair of a mapping indented by `indent`. -/
def pairAt (indent : Nat) : Value × Value → List Char
  | (.text key, value) =>
    if isSimpleKey key then
      let name := textAt true (indent + 2) indent key
      name ++ ':' :: valueAt .behindKey indent (indent + name.length + 1) value
    else
      '?' :: ' ' :: textAt false (indent + 2) (indent + 2) key ++ lineBreak indent ++
        ':' :: valueAt .behindMark indent (indent + 1) value
  | _ => []

/-- The further pairs of a mapping indented by `indent`. -/
def pairsAt (indent : Nat) : List (Value × Value) → List Char
  | [] => []
  | pair :: pairs => lineBreak indent ++ pairAt indent pair ++ pairsAt indent pairs

end

end Printer

/-- The text of a document that holds a mapping. -/
def print (pairs : List (Value × Value)) : String :=
  match pairs with
  | [] => "\x7b\x7d\n"
  | pair :: pairs =>
    String.ofList (Printer.pairAt 0 pair ++ Printer.pairsAt 0 pairs ++ ['\n'])

end NodeGraph.Yaml
