import NodeGraph.Number.Shortest
import NodeGraph.Text.Digit
import NodeGraph.Text.Printable
import NodeGraph.Value

/-!
# The text of a value

`Value.display` is how a value appears in messages and in generated source when it stands alone;
`Value.literal` is how it appears inside a sequence or mapping, where texts are quoted.
-/

namespace NodeGraph

/-- The quotation mark for a text: single, unless it has a single one and no double one. -/
def quoteMark (hasSingle hasDouble : Bool) : Char :=
  if hasSingle && !hasDouble then '\x22' else '\x27'

/-- A character between quotation marks. -/
def quoteChar (mark c : Char) : String :=
  if c = mark ∨ c = '\\' then String.ofList ['\\', c]
  else if c = '\t' then "\\t"
  else if c = '\n' then "\\n"
  else if c = '\r' then "\\r"
  else if isPrintable c then c.toString
  else if c.toNat < 0x100 then "\\x" ++ hexText 2 c.toNat
  else if c.toNat < 0x10000 then "\\u" ++ hexText 4 c.toNat
  else "\\U" ++ hexText 8 c.toNat

/-- A text between quotation marks. -/
def quoteText (s : String) : String :=
  let mark := quoteMark (s.toList.contains '\x27') (s.toList.contains '\x22')
  mark.toString ++ String.join (s.toList.map (quoteChar mark)) ++ mark.toString

def quoteByte (mark : Char) (b : UInt8) : String :=
  let c := Char.ofNat b.toNat
  if b.toNat < 127 then quoteChar mark c else "\\x" ++ hexText 2 b.toNat

/-- A byte sequence between quotation marks, after the letter `b`. -/
def quoteBytes (bs : List UInt8) : String :=
  let mark := quoteMark (bs.contains 0x27) (bs.contains 0x22)
  "b" ++ mark.toString ++ String.join (bs.map (quoteByte mark)) ++ mark.toString

def dateLiteral (d : Date) : String :=
  s!"datetime.date({d.year}, {d.month}, {d.day})"

/-- An offset as days and seconds, the days rounded down. -/
def offsetLiteral (offset : Int) : String :=
  if offset = 0 then "datetime.timezone.utc"
  else
    let seconds := (offset * 60) % 86400
    let days := (offset * 60) / 86400
    let dayText := if days = 0 then "" else s!"days={days}"
    let separator := if days ≠ 0 ∧ seconds ≠ 0 then ", " else ""
    let secondText := if seconds = 0 then "" else s!"seconds={seconds}"
    "datetime.timezone(datetime.timedelta(" ++ dayText ++ separator ++ secondText ++ "))"

def dateTimeLiteral (t : DateTime) : String :=
  let numbers := [t.date.year, t.date.month, t.date.day, t.hour, t.minute] ++
    (if t.microsecond ≠ 0 then [t.second, t.microsecond]
      else if t.second ≠ 0 then [t.second] else [])
  let zone := match t.offset with
    | none => ""
    | some offset => ", tzinfo=" ++ offsetLiteral offset
  "datetime.datetime(" ++ ", ".intercalate (numbers.map toString) ++ zone ++ ")"

namespace Value

mutual

/-- A value as it appears inside a sequence or mapping. -/
def literal : Value → String
  | .null => "None"
  | .bool b => if b then "True" else "False"
  | .int n => toString n
  | .float x => x.text
  | .text s => quoteText s
  | .bytes bs => quoteBytes bs
  | .date d => dateLiteral d
  | .dateTime t => dateTimeLiteral t
  | .list items => "[" ++ ", ".intercalate (literals items) ++ "]"
  | .tuple items =>
    match literals items with
    | [single] => "(" ++ single ++ ",)"
    | texts => "(" ++ ", ".intercalate texts ++ ")"
  | .map entries => "\x7b" ++ ", ".intercalate (entryLiterals entries) ++ "\x7d"
  | .set items =>
    match literals items with
    | [] => "set()"
    | texts => "\x7b" ++ ", ".intercalate texts ++ "\x7d"

def literals : List Value → List String
  | [] => []
  | v :: vs => literal v :: literals vs

def entryLiterals : List (Value × Value) → List String
  | [] => []
  | (k, v) :: more => (literal k ++ ": " ++ literal v) :: entryLiterals more

end

/-- A value standing alone. -/
def display : Value → String
  | .text s => s
  | .date d => d.text
  | .dateTime t => t.textWith " "
  | v => v.literal

end Value

end NodeGraph
