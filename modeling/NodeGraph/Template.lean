import NodeGraph.Text.Blank

/-!
# Templates

The source of a node is its template with the placeholders replaced. A placeholder is what stands
between two opening braces and the next two closing ones on the same line. `Template.pieces` takes a
template apart from left to right: nothing that is inserted is looked at again.
-/

namespace NodeGraph.Template

/-- A stretch that stays as it is, one character at a time, or a placeholder with what stands
between its braces. -/
inductive Piece where
  | literal (c : Char)
  | placeholder (inner : List Char)
  deriving DecidableEq, Inhabited

/-- What stands before the next two closing braces on this line. -/
def closing? : List Char → Option (List Char)
  | [] => none
  | '\x7d' :: '\x7d' :: _ => some []
  | c :: rest => if c = '\n' then none else (closing? rest).map (c :: ·)

/-- What stands in the placeholder that starts here. -/
def placeholder? : List Char → Option (List Char)
  | '\x7b' :: '\x7b' :: rest => closing? rest
  | _ => none

/-- The pieces behind the first `skip` characters, which belong to the placeholder before. -/
def piecesFrom : Nat → List Char → List Piece
  | _, [] => []
  | skip + 1, _ :: rest => piecesFrom skip rest
  | 0, c :: rest =>
    match placeholder? (c :: rest) with
    | some inner => .placeholder inner :: piecesFrom (inner.length + 3) rest
    | none => .literal c :: piecesFrom 0 rest

/-- The pieces of a template. -/
def pieces (cs : List Char) : List Piece := piecesFrom 0 cs

theorem piecesFrom_drop (skip : Nat) (cs : List Char) :
    piecesFrom skip cs = pieces (cs.drop skip) := by
  induction skip generalizing cs with
  | zero => rfl
  | succ n ih => cases cs with
    | nil => simp [piecesFrom, pieces]
    | cons c rest => simpa [piecesFrom] using ih rest

/-- The characters that a piece was. -/
def Piece.source : Piece → List Char
  | .literal c => [c]
  | .placeholder inner => ['\x7b', '\x7b'] ++ inner ++ ['\x7d', '\x7d']

/-- What a placeholder refers to. -/
inductive Reference where
  | field (name : String)
  | input (name : String)
  | output (name : String)
  /-- A field, an input or an output, or the id of the node. -/
  | bare (name : String)
  | unknown
  deriving DecidableEq, Inhabited

/-- The characters before the last dot, if there is one, and those behind it. -/
def splitLastDot (cs : List Char) : Option (List Char) × List Char :=
  let name := (cs.reverse.takeWhile (· ≠ '.')).reverse
  match cs.reverse.dropWhile (· ≠ '.') with
  | [] => (none, name)
  | _ :: before => (some before.reverse, name)

/-- The reference that stands in a placeholder, blanks around it aside. -/
def Reference.ofInner (inner : List Char) : Reference :=
  let (space, name) := splitLastDot (trimChars isBlank inner)
  let name := String.ofList name
  match space.map String.ofList with
  | none | some "" => .bare name
  | some "fields" => .field name
  | some "inputs" => .input name
  | some "outputs" => .output name
  | some _ => .unknown

end NodeGraph.Template
