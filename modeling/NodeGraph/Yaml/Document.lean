import NodeGraph.Number.Reading
import NodeGraph.Value.Arrangement
import NodeGraph.Yaml.Base64
import NodeGraph.Yaml.Node

/-!
# The value of a document

`Yaml.read` turns a text into a value. Each node becomes the value its tag asks for; a mapping
first takes over the pairs of the mappings under its merge keys, which its own pairs override.

Of several faults the outermost is reported: values are built level by level, the children of a
collection one level after it, and from left to right within a level.
-/

namespace NodeGraph.Yaml

/-! ## Scalars -/

def truthWords : List (String × Bool) :=
  [("yes", true), ("no", false), ("true", true), ("false", false), ("on", true), ("off", false)]

/-- The prefix letter that a base allows behind a zero. -/
def baseLetter? : Nat → Option Char
  | 2 => some 'b'
  | 8 => some 'o'
  | 16 => some 'x'
  | _ => none

/-- The longest decimal numeral that is read. -/
def decimalLimit : Nat := 4300

/-- An integer in a base: between white space, with a sign and the prefix of its base. -/
def readBase? (base : Nat) (cs : List Char) : Option Int := do
  let (negative, body) := splitSign ((trimChars isUnicodeSpace cs).map foldDigit)
  let body := match body with
    | '0' :: letter :: rest =>
      if baseLetter? base = some (asciiLower letter) then rest else '0' :: letter :: rest
    | body => body
  let digits ← body.mapM (baseDigit? base)
  if digits.isEmpty || (base = 10 && decimalLimit < digits.length) then none
  else
    let n : Int := ofDigits base digits
    some (if negative then -n else n)

/-- The text without low lines, its sign split off; a numeral needs at least one character. -/
def numeral (cs : List Char) : Except Fault (Bool × List Char) :=
  match cs.filter (· ≠ '_') with
  | [] => .error .emptyNumber
  | body => .ok (splitSign body)

/-- The parts between the colons. -/
def colonParts (cs : List Char) : List (List Char) :=
  cs.splitOn ':'

def readInt (cs : List Char) : Except Fault Value := do
  let (negative, body) ← numeral cs
  let orBad (n : Option Int) : Except Fault Value :=
    match n with
    | some n => .ok (.int (if negative then -n else n))
    | none => .error .badScalar
  match body with
  | [] => throw .emptyNumber
  | ['0'] => return .int 0
  | '0' :: 'b' :: rest => orBad (readBase? 2 rest)
  | '0' :: 'x' :: rest => orBad (readBase? 16 rest)
  | '0' :: rest => orBad (readBase? 8 ('0' :: rest))
  | body =>
    if body.contains ':' then
      orBad (((colonParts body).mapM (readBase? 10)).map
        (List.foldl (fun total part => total * 60 + part) 0))
    else orBad (readBase? 10 body)

/-- Sixtieths from the last part to the first, added up in doubles. -/
def sumBase60 (base : Nat) (total : Double) : List Double → Except Fault Double
  | [] => .ok total
  | part :: parts =>
    match Double.ofInt? base with
    | some factor => sumBase60 (base * 60) (total.add (part.mul factor)) parts
    | none => .error .tooLarge

def readFloat (cs : List Char) : Except Fault Value := do
  let (negative, body) ← numeral (cs.map lowerChar)
  let signed (x : Double) : Value := .float (if negative then x.neg else x)
  if body = ".inf".toList then return signed (.infinity false)
  else if body = ".nan".toList then return .float .nan
  else if body.contains ':' then
    match (colonParts body).mapM fun part => Double.readLenient? (String.ofList part) with
    | some parts => return signed (← sumBase60 1 .zero parts.reverse)
    | none => throw .badScalar
  else
    match Double.readLenient? (String.ofList body) with
    | some x => return signed x
    | none => throw .badScalar

/-- The first six digits behind the point as microseconds. -/
def microseconds (digits : List Nat) : Nat :=
  ofDigits 10 ((digits ++ [0, 0, 0, 0, 0, 0]).take 6)

def readTimestamp (cs : List Char) : Except Fault Value :=
  let line := if cs.getLast? = some '\n' then cs.dropLast else cs
  match Tag.timestamp? line with
  | none => .error .notTimestamp
  | some parts =>
    match Date.ofParts? parts.year parts.month parts.day, parts.clock with
    | none, _ => .error .badScalar
    | some date, none => .ok (.date date)
    | some date, some (hour, minute, second, fraction, zone) =>
      match DateTime.ofParts? date hour minute second (microseconds fraction) zone with
      | some moment => .ok (.dateTime moment)
      | none => .error .badScalar

def readBinary (cs : List Char) : Except Fault Value :=
  if cs.all fun c => c.toNat < 128 then
    match decodeBase64? cs with
    | some bytes => .ok (.bytes bytes)
    | none => .error .malformed
  else .error .malformed

/-- The value of a scalar text under a tag. -/
def scalarValue (tag : Tag) (s : String) : Except Fault Value :=
  match tag with
  | .null => .ok .null
  | .bool =>
    match truthWords.lookup (s.map lowerChar) with
    | some b => .ok (.bool b)
    | none => .error .unknownWord
  | .int => readInt s.toList
  | .float => readFloat s.toList
  | .binary => readBinary s.toList
  | .timestamp => readTimestamp s.toList
  | .str => .ok (.text s)
  | _ => .error .malformed

/-! ## Building -/

/-- A value with the faults met on the way, each with its level. -/
structure Built (α : Type) where
  value : α
  faults : List (Nat × Fault)

namespace Built

def ofExcept (level : Nat) : Except Fault Value → Built Value
  | .ok v => ⟨v, []⟩
  | .error f => ⟨.null, [(level, f)]⟩

def broken (level : Nat) : Built Value := ⟨.null, [(level, .malformed)]⟩

def map {α β : Type} (f : α → β) (b : Built α) : Built β := ⟨f b.value, b.faults⟩

/-- The fault of the lowest level, the first of them. -/
def firstFault : List (Nat × Fault) → Option (Nat × Fault)
  | [] => none
  | (level, fault) :: more =>
    match firstFault more with
    | some (other, later) => if other < level then some (other, later) else some (level, fault)
    | none => some (level, fault)

end Built

namespace Node

def tag : Node → Tag
  | .scalar tag _ => tag
  | .sequence tag _ => tag
  | .mapping tag _ => tag

mutual

/-- The text that stands for a node where a scalar is asked for: that of a scalar, and in a mapping
that of the node under its value key. -/
def scalarText? : Node → Option String
  | .scalar _ text => some text
  | .sequence _ _ => none
  | .mapping _ pairs => valueText? pairs

def valueText? : List (Node × Node) → Option String
  | [] => none
  | (key, value) :: more => if key.tag = .value then scalarText? value else valueText? more

end

mutual

/-- Whether all merge keys, also those of the mappings merged, stand before mappings or sequences
of mappings. -/
def mergesFit : List (Node × Node) → Bool
  | [] => true
  | (key, value) :: more => (if key.tag = .merge then mergeFits value else true) && mergesFit more

def mergeFits : Node → Bool
  | .scalar _ _ => false
  | .sequence _ items => mergeListFits items
  | .mapping _ pairs => mergesFit pairs

def mergeListFits : List Node → Bool
  | [] => true
  | .mapping _ pairs :: more => mergesFit pairs && mergeListFits more
  | _ => false

end

/-- A key of a mapping, which has to be able to be one. The value key is a text there. -/
def keyed (level : Nat) (node : Node) (built : Built Value) : Built Value :=
  if node.tag = .value then
    match node.scalarText? with
    | some text => ⟨.text text, []⟩
    | none => .broken level
  else if built.value.isKey then built
  else ⟨built.value, built.faults ++ [(level, .malformed)]⟩

/-- Pairs taken over from merged mappings, and a mapping's own, with their faults. -/
structure Pairs where
  merged : Built (List (Value × Value))
  own : Built (List (Value × Value))

def Pairs.none : Pairs := ⟨⟨[], []⟩, ⟨[], []⟩⟩

/-- All pairs in the order in which they are put in: later ones override. -/
def Pairs.all (p : Pairs) : Built (List (Value × Value)) :=
  ⟨p.merged.value ++ p.own.value, p.merged.faults ++ p.own.faults⟩

mutual

/-- The value of a node that is built at `level`. -/
def build (level : Nat) : Node → Built Value
  | .scalar tag text =>
    match tag with
    | .seq | .map | .set | .omap | .pairs => .broken (level + 1)
    | _ => .ofExcept level (scalarValue tag text)
  | .sequence tag items =>
    match tag with
    | .seq => (buildItems (level + 1) items).map .list
    | .omap | .pairs => (buildSingles (level + 1) items).map .list
    | .map | .set => .broken (level + 1)
    | _ => .broken level
  | .mapping tag pairs =>
    let entries : Built (List (Value × Value)) :=
      if mergesFit pairs then (buildPairs (level + 1) pairs).all
      else ⟨[], [(level + 1, .malformed)]⟩
    match tag with
    | .map => entries.map Value.mapOf
    | .set => entries.map fun pairs => .setOf (pairs.map (·.1))
    | .seq | .omap | .pairs => .broken (level + 1)
    | .timestamp =>
      if (valueText? pairs).isSome then ⟨.null, [(level, .notText)]⟩ else .broken level
    | tag =>
      match valueText? pairs with
      | some text => .ofExcept level (scalarValue tag text)
      | none => .broken level

def buildItems (level : Nat) : List Node → Built (List Value)
  | [] => ⟨[], []⟩
  | node :: more =>
    let item := build level node
    let items := buildItems level more
    ⟨item.value :: items.value, item.faults ++ items.faults⟩

/-- The single pairs of an ordered mapping, as tuples. -/
def buildSingles (level : Nat) : List Node → Built (List Value)
  | [] => ⟨[], []⟩
  | .mapping _ [(key, value)] :: more =>
    let key := build level key
    let value := build level value
    let items := buildSingles level more
    ⟨.tuple [key.value, value.value] :: items.value, key.faults ++ value.faults ++ items.faults⟩
  | _ => ⟨[], [(level, .malformed)]⟩

def buildPairs (level : Nat) : List (Node × Node) → Pairs
  | [] => .none
  | (key, value) :: more =>
    let rest := buildPairs level more
    if key.tag = .merge then
      let taken := buildMerged level value
      ⟨⟨taken.value ++ rest.merged.value, taken.faults ++ rest.merged.faults⟩, rest.own⟩
    else
      let key := keyed level key (build level key)
      let value := build level value
      ⟨rest.merged, ⟨(key.value, value.value) :: rest.own.value,
        key.faults ++ value.faults ++ rest.own.faults⟩⟩

/-- The pairs of a merged mapping, or of a sequence of them from the last to the first. -/
def buildMerged (level : Nat) : Node → Built (List (Value × Value))
  | .scalar _ _ => ⟨[], []⟩
  | .sequence _ items => buildMergedList level items
  | .mapping _ pairs => (buildPairs level pairs).all

def buildMergedList (level : Nat) : List Node → Built (List (Value × Value))
  | [] => ⟨[], []⟩
  | .mapping _ pairs :: more =>
    let first := (buildPairs level pairs).all
    let rest := buildMergedList level more
    ⟨rest.value ++ first.value, rest.faults ++ first.faults⟩
  | _ :: more => buildMergedList level more

end

/-- The value of a node, or its first fault. -/
def value (node : Node) : Except Fault Value :=
  let built := build 0 node
  match Built.firstFault built.faults with
  | some (_, fault) => .error fault
  | none => .ok built.value

end Node

/-- The value of a text; a text without a document is null. -/
def read (s : String) : Except Fault Value :=
  match Node.ofTokens (Token.ofText s) with
  | .error fault => .error fault
  | .ok none => .ok .null
  | .ok (some node) => node.value

end NodeGraph.Yaml
