import NodeGraph.Schema

/-!
# Plain values

What can be written to a file: null, truth values, integers, finite floats, texts, lists, and
mappings with text keys. `Value.plain?` brings any value to that form: dates, times and bytes become
texts, sequences and sets become lists, floats that are not finite become null. Bytes that are no
text cannot be written, nor can integers of more than `digitLimit` digits.
-/

namespace NodeGraph.Value

mutual

/-- Whether a value is plain already. -/
def isPlain : Value → Bool
  | .null | .bool _ | .int _ | .text _ => true
  | .float x => x.isFinite
  | .list items => arePlain items
  | .map entries => entriesPlain entries
  | _ => false

def arePlain : List Value → Bool
  | [] => true
  | v :: vs => isPlain v && arePlain vs

def entriesPlain : List (Value × Value) → Bool
  | [] => true
  | (.text _, v) :: more => isPlain v && entriesPlain more
  | _ => false

end

/-- The most digits that an integer may have to be written. -/
def digitLimit : Nat := 4300

mutual

/-- Whether all integers in a value can be written, those in its keys too. -/
def isWritable : Value → Bool
  | .int n => (Nat.toDigits 10 n.natAbs).length ≤ digitLimit
  | .list items | .tuple items | .set items => areWritable items
  | .map entries => entriesWritable entries
  | _ => true

def areWritable : List Value → Bool
  | [] => true
  | v :: vs => isWritable v && areWritable vs

def entriesWritable : List (Value × Value) → Bool
  | [] => true
  | (k, v) :: more => isWritable k && isWritable v && entriesWritable more

end

mutual

/-- A key as a text. -/
def keyText? : Value → Option String
  | .null => some "None"
  | .bool b => some (if b then "true" else "false")
  | .text s => some s
  | .bytes bs => Schema.utf8? bs
  | .date d => some d.text
  | .dateTime t => some t.fileText
  | .tuple items => (keyTexts? items).map ",".intercalate
  | v => some v.literal

def keyTexts? : List Value → Option (List String)
  | [] => some []
  | v :: vs =>
    match keyText? v, keyTexts? vs with
    | some s, some texts => some (s :: texts)
    | _, _ => none

end

mutual

/-- The plain form of a value. -/
def plain? : Value → Option Value
  | .null => some .null
  | .bool b => some (.bool b)
  | .int n => some (.int n)
  | .float x => some (if x.isFinite then .float x else .null)
  | .text s => some (.text s)
  | .bytes bs => (Schema.utf8? bs).map .text
  | .date d => some (.text d.text)
  | .dateTime t => some (.text t.fileText)
  | .list items | .tuple items | .set items => (plainItems? items).map .list
  | .map entries => (plainEntries? entries).map mapOf

def plainItems? : List Value → Option (List Value)
  | [] => some []
  | v :: vs =>
    match plain? v, plainItems? vs with
    | some w, some ws => some (w :: ws)
    | _, _ => none

/-- The entries with their keys as texts. -/
def plainEntries? : List (Value × Value) → Option (List (Value × Value))
  | [] => some []
  | (k, v) :: more =>
    match keyText? k, plain? v, plainEntries? more with
    | some s, some w, some rest => some ((.text s, w) :: rest)
    | _, _, _ => none

end

end NodeGraph.Value
