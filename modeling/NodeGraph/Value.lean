import NodeGraph.Calendar
import NodeGraph.Number.Double

/-!
# Values

The data that node fields, defaults and metadata hold: scalars, sequences, mappings and sets,
nested to any depth. A mapping keeps its entries in the order in which their keys first came.
-/

namespace NodeGraph

inductive Value where
  | null
  | bool (b : Bool)
  | int (n : Int)
  | float (x : Double)
  | text (s : String)
  | bytes (bs : List UInt8)
  | date (d : Date)
  | dateTime (t : DateTime)
  | list (items : List Value)
  | tuple (items : List Value)
  | map (entries : List (Value × Value))
  | set (items : List Value)
  deriving Inhabited

namespace Value

/-- The number that a value stands for where numbers of different kinds are compared: a truth value
counts as 0 or 1. -/
inductive Numeric where
  | exact (n : Int)
  | approximate (x : Double)

def numeric? : Value → Option Numeric
  | .bool b => some (.exact (if b then 1 else 0))
  | .int n => some (.exact n)
  | .float x => some (.approximate x)
  | _ => none

/-- Numbers are equal by value. Not-a-number equals itself here, so that it can be found again. -/
def Numeric.eqv : Numeric → Numeric → Bool
  | .exact a, .exact b => a == b
  | .exact a, .approximate y => y.toInt? == some a
  | .approximate x, .exact b => x.toInt? == some b
  | .approximate x, .approximate y => x.eqv y || x == y

mutual

/-- Equality of values: numbers by value across their kinds, mappings and sets in any order. -/
def eqv : Value → Value → Bool
  | .null, .null => true
  | .text s, .text t => s == t
  | .bytes s, .bytes t => s == t
  | .date s, .date t => s == t
  | .dateTime s, .dateTime t => s.sameInstant t
  | .list xs, .list ys => eqvList xs ys
  | .tuple xs, .tuple ys => eqvList xs ys
  | .map es, .map fs => es.length == fs.length && eqvEntries es fs
  | .set xs, .set ys => xs.length == ys.length && eqvMembers xs ys
  | .bool a, y => sameNumber (.bool a) y
  | .int a, y => sameNumber (.int a) y
  | .float a, y => sameNumber (.float a) y
  | _, _ => false
where
  sameNumber (x y : Value) : Bool :=
    match x.numeric?, y.numeric? with
    | some a, some b => a.eqv b
    | _, _ => false

def eqvList : List Value → List Value → Bool
  | [], [] => true
  | x :: xs, y :: ys => eqv x y && eqvList xs ys
  | _, _ => false

def eqvEntries : List (Value × Value) → List (Value × Value) → Bool
  | [], _ => true
  | (k, v) :: es, fs => (fs.any fun (k', v') => eqv k k' && eqv v v') && eqvEntries es fs

def eqvMembers : List Value → List Value → Bool
  | [], _ => true
  | x :: xs, ys => (ys.any fun y => eqv x y) && eqvMembers xs ys

end

mutual

/-- Whether a value can be a key of a mapping or a member of a set. -/
def isKey : Value → Bool
  | .list _ | .map _ | .set _ => false
  | .tuple items => areKeys items
  | _ => true

def areKeys : List Value → Bool
  | [] => true
  | v :: vs => isKey v && areKeys vs

end

/-- The entry value under a key. -/
def lookup (key : Value) (entries : List (Value × Value)) : Option Value :=
  (entries.find? fun (k, _) => key.eqv k).map (·.2)

/-- The entries with `value` under `key`: in the place of the key's entry, or at the end. -/
def insert (key value : Value) : List (Value × Value) → List (Value × Value)
  | [] => [(key, value)]
  | (k, v) :: more => if key.eqv k then (k, value) :: more else (k, v) :: insert key value more

/-- The mapping that arises by putting the pairs in one after the other. -/
def mapOf (pairs : List (Value × Value)) : Value :=
  .map (pairs.foldl (fun entries (k, v) => insert k v entries) [])

/-- The members without repetition, in the order in which they first came. -/
def distinct (items : List Value) : List Value :=
  items.foldl (fun seen v => if seen.any v.eqv then seen else seen ++ [v]) []

/-- The value under a text key. -/
def field? (name : String) (entries : List (Value × Value)) : Option Value :=
  lookup (.text name) entries

/-- The word for the kind of a value. -/
def kindName : Value → String
  | .null => "NoneType"
  | .bool _ => "bool"
  | .int _ => "int"
  | .float _ => "float"
  | .text _ => "str"
  | .bytes _ => "bytes"
  | .date _ => "date"
  | .dateTime _ => "datetime"
  | .list _ => "list"
  | .tuple _ => "tuple"
  | .map _ => "dict"
  | .set _ => "set"

/-- Whether a value counts as true: everything but null, false, zero and the empty ones. -/
def isTruthy : Value → Bool
  | .null => false
  | .bool b => b
  | .int n => n != 0
  | .float x => !x.isZero
  | .text s => s != ""
  | .bytes bs => !bs.isEmpty
  | .date _ | .dateTime _ => true
  | .list items | .tuple items | .set items => !items.isEmpty
  | .map entries => !entries.isEmpty

end Value

end NodeGraph
