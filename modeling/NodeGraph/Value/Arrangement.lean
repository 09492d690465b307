import NodeGraph.Value

/-!
# The order of sets

A set lists its members in the order of the slots that they have in a hash table. The slot of a member
depends on its hash, on the size of the table and on the members that were put in before. So a copy,
which puts the members of a set one after the other into a new table, may list them in another order.

Only the hashes of numbers are known. Those of texts and of other values differ from one run of the
program to the next; members among which there are such values are left in the order they have.
-/

namespace NodeGraph

/-! ## Hashes -/

/-- Numbers are hashed modulo the prime `2 ^ 61 - 1`. -/
def hashModulus : Nat := 0x1FFFFFFFFFFFFFFF

/-- The hash of `n` with a sign, as an unsigned word of 64 bits. It is never that of `-1`. -/
def signedHash (negative : Bool) (n : Nat) : Nat :=
  let hash := n % hashModulus
  if hash = 0 || !negative then hash else 0x10000000000000000 - max hash 2

/-- A power of two is taken modulo the same prime, where `2 ^ 61` is one. -/
def Double.hash? : Double → Option Nat
  | .nan => none
  | .infinity negative => some (signedHash negative 314159)
  | .finite negative mantissa exponent _ =>
    some (signedHash negative (mantissa * Nat.pow 2 (exponent % 61).toNat))

/-- The hash of a number; equal numbers have the same, whatever their kind. -/
def Value.hash? : Value → Option Nat
  | .bool b => some (if b then 1 else 0)
  | .int n => some (signedHash (n < 0) n.natAbs)
  | .float x => x.hash?
  | _ => none

/-! ## Tables -/

/-- A member of a set and the slot that it has. -/
structure Cell where
  slot : Nat
  hash : Nat
  member : Value

/-- The cell among others, which are in the order of their slots. -/
def Cell.insert (c : Cell) : List Cell → List Cell
  | [] => [c]
  | other :: more => if c.slot < other.slot then c :: other :: more else other :: c.insert more

/-- A table of `size` slots, a power of two, and the cells in it in the order of their slots. -/
structure HashTable where
  size : Nat
  cells : List Cell

namespace HashTable

/-- An empty table with more than `least` slots; there are always eight at least. -/
def withMore (least : Nat) : HashTable := ⟨max 8 (Nat.pow 2 (least.log2 + 1)), []⟩

def members (t : HashTable) : List Value := t.cells.map (·.member)

def isFree (t : HashTable) (slot : Nat) : Bool := t.cells.all (·.slot != slot)

/-- The slots that are tried one after the other from `slot` on: ten, if the table has so many. -/
def window (t : HashTable) (slot : Nat) : List Nat :=
  if slot + 9 < t.size then List.range' slot 10 else [slot]

/-- The first free slot from `slot` on, where `bits` are those of the hash that were not used yet.
When these are used up, every slot of the table is come to in as many steps as it has slots. -/
def freeSlot (t : HashTable) : Nat → Nat → Nat → Nat
  | 0, _, slot => slot
  | fuel + 1, bits, slot =>
    match (t.window slot).find? t.isFree with
    | some free => free
    | none => freeSlot t fuel (bits / 32) ((5 * slot + 1 + bits / 32) % t.size)

def put (t : HashTable) (hash : Nat) (member : Value) : HashTable :=
  let slot := t.freeSlot (t.size + 13) hash (hash % t.size)
  { t with cells := Cell.insert ⟨slot, hash, member⟩ t.cells }

/-- The same members in a table with more than `least` slots. -/
def grown (t : HashTable) (least : Nat) : HashTable :=
  t.cells.foldl (fun table c => table.put c.hash c.member) (withMore least)

/-- Puts a member in. A table that is filled to three fifths by it grows. -/
def add (t : HashTable) (hash : Nat) (member : Value) : HashTable :=
  let t := t.put hash member
  let used := t.cells.length
  if used * 5 < (t.size - 1) * 3 then t
  else t.grown (if 50000 < used then used * 2 else used * 4)

end HashTable

/-! ## Sets -/

namespace Value

/-- The members with their hashes, if these are known. -/
def hashed? : List Value → Option (List (Nat × Value))
  | [] => some []
  | v :: vs =>
    match v.hash?, hashed? vs with
    | some hash, some rest => some ((hash, v) :: rest)
    | _, _ => none

/-- The members in the order in which they are listed after they were put one after the other into an
empty table with more than `least` slots. -/
def arranged (least : Nat) (members : List Value) : List Value :=
  match hashed? members with
  | some hashed =>
    (hashed.foldl (fun table (hash, v) => table.add hash v) (HashTable.withMore least)).members
  | none => members

/-- The set of the given keys. The table has room for all of them from the start. -/
def setOf (keys : List Value) : Value :=
  let members := distinct keys
  .set (arranged (if members.length < 5 then 0 else members.length * 2) members)

/-! ## Copies -/

mutual

/-- A copy of a value. Only the order of the members of sets may differ from the original. -/
def copied : Value → Value
  | .list items => .list (copiedItems items)
  | .tuple items => .tuple (copiedItems items)
  | .map entries => .map (copiedEntries entries)
  | .set members => .set (arranged 0 members)
  | v => v

def copiedItems : List Value → List Value
  | [] => []
  | v :: vs => copied v :: copiedItems vs

/-- A key holds no sets, so it is its own copy. -/
def copiedEntries : List (Value × Value) → List (Value × Value)
  | [] => []
  | (key, v) :: more => (key, copied v) :: copiedEntries more

end

end Value

end NodeGraph
