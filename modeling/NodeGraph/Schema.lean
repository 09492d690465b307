import NodeGraph.Number.Reading
import NodeGraph.Value.Display

/-!
# Reading values by a schema

Each reader takes a value and gives either what the schema describes or all the issues found, each
with the path to where it is. Readers are lenient: a number may come as a text, a truth value as one
of the usual words, a text as its bytes.
-/

namespace NodeGraph

namespace Issue

/-- A step on the path to an issue. -/
inductive Step where
  | name (s : String)
  | index (n : Int)
  deriving DecidableEq, Inhabited

/-- What is wrong with a value. -/
inductive Kind where
  | missing
  | stringType
  | stringUnicode
  | boolType
  | boolParsing
  | floatType
  | floatParsing
  | intType
  | intParsing
  | intParsingSize
  | intFromFloat
  | finiteNumber
  | listType
  | dictType
  | modelType
  | unknownChoice
  | callableType
  | pathType
  /-- Two pins of one side have the same name. -/
  | duplicatePin (side name : String)
  | invalidPattern
  | incompatibleFlags
  deriving DecidableEq, Inhabited

end Issue

structure Issue where
  kind : Issue.Kind
  path : List Issue.Step
  deriving DecidableEq, Inhabited

/-- The outcome of reading by a schema. `overflow` means that a pattern repeats something more often
than can be counted, which stops the reading at once. -/
inductive Checked (α : Type) where
  | good (value : α)
  | bad (issues : List Issue)
  | overflow
  deriving Inhabited

namespace Checked

variable {α β : Type}

def issue (kind : Issue.Kind) : Checked α := .bad [⟨kind, []⟩]

def map (f : α → β) : Checked α → Checked β
  | .good a => .good (f a)
  | .bad issues => .bad issues
  | .overflow => .overflow

/-- Both outcomes together; the issues of both are kept. -/
def apply : Checked (α → β) → Checked α → Checked β
  | .overflow, _ => .overflow
  | _, .overflow => .overflow
  | .good f, .good a => .good (f a)
  | .bad issues, .good _ => .bad issues
  | .good _, .bad issues => .bad issues
  | .bad issues, .bad more => .bad (issues ++ more)

def bind (x : Checked α) (f : α → Checked β) : Checked β :=
  match x with
  | .good a => f a
  | .bad issues => .bad issues
  | .overflow => .overflow

/-- The outcome as seen from one step further out. -/
def under (step : Issue.Step) : Checked α → Checked α
  | .bad issues => .bad (issues.map fun i => ⟨i.kind, step :: i.path⟩)
  | x => x

/-- All outcomes of a list together. -/
def all : List (Checked α) → Checked (List α)
  | [] => .good []
  | x :: xs => ((x.map List.cons).apply (all xs))

end Checked

namespace Schema

/-- The largest magnitudes of the integers that are told apart in messages. -/
def isShort (n : Int) : Bool := -0x8000000000000000 ≤ n && n < 0x8000000000000000

def utf8? (bs : List UInt8) : Option String := String.fromUTF8? ⟨bs.toArray⟩

def text : Value → Checked String
  | .text s => .good s
  | .bytes bs =>
    match utf8? bs with
    | some s => .good s
    | none => .issue .stringUnicode
  | _ => .issue .stringType

def falseWords : List String := ["0", "off", "f", "false", "n", "no"]

def trueWords : List String := ["1", "on", "t", "true", "y", "yes"]

def boolWord (s : String) : Checked Bool :=
  let word := asciiLowerText s
  if trueWords.contains word then .good true
  else if falseWords.contains word then .good false
  else .issue .boolParsing

def boolNumber (n : Int) : Checked Bool :=
  if n = 0 then .good false
  else if n = 1 then .good true
  else if isShort n then .issue .boolParsing
  else .issue .boolType

def bool : Value → Checked Bool
  | .bool b => .good b
  | .text s => boolWord s
  | .bytes bs =>
    match utf8? bs with
    | some s => boolWord s
    | none => .issue .boolParsing
  | .int n => boolNumber n
  | .float x =>
    match x.toInt? with
    | some n => boolNumber n
    | none => .issue .boolType
  | _ => .issue .boolType

def floatText (s : String) : Checked Double :=
  match Double.readField? s with
  | some x => .good x
  | none => .issue .floatParsing

def float : Value → Checked Double
  | .float x => .good x
  | .int n =>
    match Double.ofInt? n with
    | some x => .good x
    | none => .issue .floatType
  | .bool b => .good (if b then .ofRatio false 1 1 else .zero)
  | .text s => floatText s
  | .bytes bs =>
    match utf8? bs with
    | some s => floatText s
    | none => .issue .floatParsing
  | _ => .issue .floatType

/-- The longest text that is read as an integer. -/
def intTextLimit : Nat := 4300

def intText (s : String) : Checked Int :=
  if intTextLimit < s.length then .issue .intParsingSize
  else
    match readIntField? s with
    | some n => .good n
    | none => .issue .intParsing

def int : Value → Checked Int
  | .int n => .good n
  | .bool b => .good (if b then 1 else 0)
  | .float x =>
    if !x.isFinite then .issue .finiteNumber
    else
      match x.toInt? with
      | some n => if isShort n then .good n else .issue .intParsingSize
      | none => .issue .intFromFloat
  | .text s => intText s
  | .bytes bs =>
    match utf8? bs with
    | some s => intText s
    | none => .issue .intParsing
  | _ => .issue .intType

/-- A value or null. -/
def optional {α : Type} (read : Value → Checked α) : Value → Checked (Option α)
  | .null => .good none
  | v => (read v).map some

/-- Each item of a sequence or set. -/
def list {α : Type} (read : Value → Checked α) : Value → Checked (List α)
  | .list items | .tuple items | .set items =>
    .all (items.mapIdx fun i v => (read v).under (.index i))
  | _ => .issue .listType

/-- A mapping key as a step of a path. -/
def keyStep : Value → Issue.Step
  | .text s => .name s
  | .bool b => .index (if b then 1 else 0)
  | .int n => if isShort n then .index n else .name (toString n)
  | v => .name v.literal

/-- The entries of a mapping with text keys, in their order. -/
def entries {α : Type} (read : Value → Checked α) : Value → Checked (List (String × α))
  | .map pairs =>
    .all (pairs.map fun (k, v) =>
      let key := (((text k).under (.name "[key]")).under (keyStep k))
      (key.map Prod.mk).apply ((read v).under (keyStep k)))
  | _ => .issue .dictType

/-- Any value. -/
def any (v : Value) : Checked Value := .good v

/-- The pairs of a mapping that stands for a record. -/
def record : Value → Checked (List (Value × Value))
  | .map pairs => .good pairs
  | _ => .issue .modelType

/-- The first of the names under which a record has a value. -/
def found? (names : List String) (pairs : List (Value × Value)) : Option (String × Value) :=
  names.findSome? fun name => (Value.field? name pairs).map fun v => (name, v)

/-- A field that has to be there, under one of its names. -/
def required {α : Type} (names : List String) (read : Value → Checked α)
    (pairs : List (Value × Value)) : Checked α :=
  match found? names pairs with
  | some (name, v) => (read v).under (.name name)
  | none => .bad [⟨.missing, [.name (names.headD "")]⟩]

/-- A field with a value for its absence. -/
def defaulted {α : Type} (names : List String) (missing : α) (read : Value → Checked α)
    (pairs : List (Value × Value)) : Checked α :=
  match found? names pairs with
  | some (name, v) => (read v).under (.name name)
  | none => .good missing

end Schema

end NodeGraph
