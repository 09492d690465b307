import NodeGraph.Text.Digit
import NodeGraph.Yaml.Token

/-!
# Tags

A tag says what kind of value a node is. A plain scalar without a tag gets one from its text:
`Tag.ofPlain` recognises the spellings of null, truth values, numbers, timestamps and the two
special keys, and takes everything else as text.
-/

namespace NodeGraph.Yaml

inductive Tag where
  | null
  | bool
  | int
  | float
  | binary
  | timestamp
  | omap
  | pairs
  | set
  | str
  | seq
  | map
  | merge
  | value
  | other
  deriving DecidableEq, Inhabited

namespace Tag

/-- The start of the names of all tags with a meaning. -/
def standardStem : String := "tag:yaml.org,2002:"

def ofName (name : String) : Tag :=
  let known : List (String × Tag) :=
    [("null", null), ("bool", bool), ("int", int), ("float", float), ("binary", binary),
      ("timestamp", timestamp), ("omap", omap), ("pairs", pairs), ("set", set), ("str", str),
      ("seq", seq), ("map", map), ("merge", merge), ("value", value)]
  ((known.map fun (word, tag) => (standardStem ++ word, tag)).lookup name).getD other

/-! ## The spellings of plain scalars -/

def isNullText (s : String) : Bool := ["~", "null", "Null", "NULL", ""].contains s

def isBoolText (s : String) : Bool :=
  ["yes", "Yes", "YES", "no", "No", "NO", "true", "True", "TRUE", "false", "False", "FALSE",
    "on", "On", "ON", "off", "Off", "OFF"].contains s

def isDigit (c : Char) : Bool := (asciiDigit? c).isSome

def isDigitOrBar (c : Char) : Bool := isDigit c || c = '_'

/-- The text without a sign in front. -/
def dropSign : List Char → List Char
  | '+' :: cs => cs
  | '-' :: cs => cs
  | cs => cs

/-- Whether the parts behind the first colon are sexagesimal digits: one digit, or two of which the
first is at most 5. There is at least one part. -/
def isBase60Tail : List Char → Bool
  | [':', a] => isDigit a
  | ':' :: a :: ':' :: rest => isDigit a && isBase60Tail (':' :: rest)
  | [':', a, b] => ('0' ≤ a && a ≤ '5') && isDigit b
  | ':' :: a :: b :: rest => ('0' ≤ a && a ≤ '5') && isDigit b && isBase60Tail rest
  | _ => false
  termination_by cs => cs.length

/-- The spellings of integers: decimal, octal behind `0`, binary behind `0b`, hexadecimal behind
`0x`, and sexagesimal with colons. -/
def isIntText (cs : List Char) : Bool :=
  match dropSign cs with
  | ['0'] => true
  | '0' :: 'b' :: rest => !rest.isEmpty && rest.all fun c => c = '0' || c = '1' || c = '_'
  | '0' :: 'x' :: rest => !rest.isEmpty && rest.all fun c => (baseDigit? 16 c).isSome || c = '_'
  | '0' :: rest => rest.all fun c => ('0' ≤ c && c ≤ '7') || c = '_'
  | c :: rest =>
    isDigit c && (rest.all isDigitOrBar || isBase60Tail (rest.dropWhile isDigitOrBar))
  | [] => false

/-- Nothing, or an exponent with its sign. -/
def isExponentText : List Char → Bool
  | [] => true
  | mark :: sign :: digits =>
    (mark = 'e' || mark = 'E') && (sign = '+' || sign = '-') && !digits.isEmpty &&
      digits.all isDigit
  | _ => false

/-- Splits the parts behind the first colon from a point and its digits. -/
def isBase60Fraction (cs : List Char) : Bool :=
  isBase60Tail (cs.takeWhile (· ≠ '.')) &&
    match cs.dropWhile (· ≠ '.') with
    | _ :: digits => digits.all isDigitOrBar
    | [] => false

/-- The spellings of floats: a decimal with a point, its exponent with a sign; sexagesimal with a
point; infinity and not-a-number. -/
def isFloatText (cs : List Char) : Bool :=
  let body := dropSign cs
  [".inf".toList, ".Inf".toList, ".INF".toList].contains body ||
    [".nan".toList, ".NaN".toList, ".NAN".toList].contains cs ||
    (match cs with
      | '.' :: c :: rest => isDigit c && isExponentText (rest.dropWhile isDigitOrBar)
      | _ => false) ||
    (match body with
      | c :: _ =>
        let rest := body.dropWhile isDigitOrBar
        isDigit c && ((match rest with
            | '.' :: more => isExponentText (more.dropWhile isDigitOrBar)
            | _ => false) || isBase60Fraction rest)
      | [] => false)

/-! ## Timestamps -/

/-- The parts of a timestamp as they stand in its text. -/
structure TimestampParts where
  year : Nat
  month : Nat
  day : Nat
  /-- Hour, minute and second, digits behind the point, and zone. -/
  clock : Option (Nat × Nat × Nat × List Nat × Option Int)

/-- One or two digits. -/
def oneOrTwo : List Char → Option (Nat × List Char)
  | a :: b :: rest =>
    match asciiDigit? a, asciiDigit? b with
    | some x, some y => some (10 * x + y, rest)
    | some x, none => some (x, b :: rest)
    | none, _ => none
  | [a] => (asciiDigit? a).map fun x => (x, [])
  | [] => none

/-- Exactly two digits. -/
def two : List Char → Option (Nat × List Char)
  | a :: b :: rest =>
    match asciiDigit? a, asciiDigit? b with
    | some x, some y => some (10 * x + y, rest)
    | _, _ => none
  | _ => none

def expect (c : Char) : List Char → Option (List Char)
  | d :: rest => if c = d then some rest else none
  | [] => none

/-- A zone, or nothing: `Z`, or a signed hour with or without minutes. -/
def zone? (cs : List Char) : Option (Option Int) :=
  match cs.dropWhile fun c => c = ' ' || c = '\t' with
  | [] => if cs.isEmpty then some none else none
  | ['Z'] => some (some 0)
  | sign :: rest =>
    if sign = '+' ∨ sign = '-' then do
      let (hours, rest) ← oneOrTwo rest
      let minutes ← match rest with
        | [] => some 0
        | _ => do
          let (minutes, rest) ← two (← expect ':' rest)
          if rest.isEmpty then some minutes else none
      let total : Int := (hours * 60 + minutes : Nat)
      some (some (if sign = '-' then -total else total))
    else none

/-- The time of day behind the date and a separator. -/
def clock? (cs : List Char) : Option (Nat × Nat × Nat × List Nat × Option Int) := do
  let (hour, cs) ← oneOrTwo cs
  let (minute, cs) ← two (← expect ':' cs)
  let (second, cs) ← two (← expect ':' cs)
  let (fraction, cs) := match cs with
    | '.' :: rest =>
      (rest.takeWhile isDigit |>.filterMap asciiDigit?, rest.dropWhile isDigit)
    | _ => ([], cs)
  some (hour, minute, second, fraction, ← zone? cs)

/-- What stands between date and time of day: the letter T, or blanks. -/
def clockSeparator? : List Char → Option (List Char)
  | [] => none
  | c :: rest =>
    if c = 'T' ∨ c = 't' then some rest
    else if c = ' ' ∨ c = '\t' then some (rest.dropWhile fun c => c = ' ' || c = '\t')
    else none

/-- A date of year, month and day, alone or with a time of day. -/
def timestamp? (cs : List Char) : Option TimestampParts := do
  let (century, cs) ← two cs
  let (years, cs) ← two cs
  let (month, cs) ← oneOrTwo (← expect '-' cs)
  let (day, cs) ← oneOrTwo (← expect '-' cs)
  if cs.isEmpty then some ⟨100 * century + years, month, day, none⟩
  else
    let clock ← clock? (← clockSeparator? cs)
    some ⟨100 * century + years, month, day, some clock⟩

/-- The spellings of timestamps; a date alone has two digits for month and day. -/
def isTimestampText (cs : List Char) : Bool :=
  match timestamp? cs with
  | some parts => parts.clock.isSome || cs.length = 10
  | none => false

/-- The tag of a plain scalar. -/
def ofPlain (s : String) : Tag :=
  let cs := s.toList
  if isBoolText s then bool
  else if isFloatText cs then float
  else if isIntText cs then int
  else if s = "<<" then merge
  else if isNullText s then null
  else if isTimestampText cs then timestamp
  else if s = "=" then value
  else str

end Tag

end NodeGraph.Yaml
