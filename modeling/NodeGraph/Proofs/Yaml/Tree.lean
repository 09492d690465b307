import NodeGraph.Proofs.Yaml.Number
import NodeGraph.Proofs.Yaml.Text
import NodeGraph.Yaml.Document

/-!
# The tree of a written value

`treeAt` is the shape in which a value is written: the texts of its scalars as they are read back,
and for each key whether it stands on one line with its value. The tokens and the node of a tree do
not depend on where it stands.
-/

namespace NodeGraph.Yaml

open Printer

/-- A scalar as it is read, and whether it stands without quotation marks. -/
structure Scalar where
  text : String
  plain : Bool

/-- A key, and whether it stands on one line with its value. -/
structure Key extends Scalar where
  simple : Bool

inductive Tree where
  | scalar (s : Scalar)
  | sequence (items : List Tree)
  | mapping (pairs : List (Key × Tree))

namespace Scalar

def token (s : Scalar) : Token := .scalar s.text s.plain

def node (s : Scalar) : Node := .scalar (Node.scalarTag none s.text s.plain) s.text

/-- A text at an indentation. -/
def ofText (isKey : Bool) (indent column : ℕ) (s : String) : Scalar :=
  ⟨rereadText isKey indent column s, styleOf isKey s = .plain⟩

end Scalar

namespace Tree

mutual

/-- The tokens of a tree; empty collections are brackets. A bare sequence has no block of its
own. -/
def tokens (bare : Bool) : Tree → List Token
  | .scalar s => [s.token]
  | .sequence [] => [.flowSequenceStart, .flowSequenceEnd]
  | .sequence (item :: items) =>
    if bare then entryTokens (item :: items)
    else .blockSequenceStart :: (entryTokens (item :: items) ++ [.blockEnd])
  | .mapping [] => [.flowMappingStart, .flowMappingEnd]
  | .mapping (pair :: pairs) => .blockMappingStart :: (pairTokens (pair :: pairs) ++ [.blockEnd])

def entryTokens : List Tree → List Token
  | [] => []
  | item :: items => .blockEntry :: (tokens false item ++ entryTokens items)

/-- Behind a key on its line a sequence is bare. -/
def pairTokens : List (Key × Tree) → List Token
  | [] => []
  | (key, value) :: pairs =>
    .key :: key.token :: .value :: (tokens key.simple value ++ pairTokens pairs)

end

mutual

def node : Tree → Node
  | .scalar s => s.node
  | .sequence items => .sequence .seq (nodes items)
  | .mapping pairs => .mapping .map (pairNodes pairs)

def nodes : List Tree → List Node
  | [] => []
  | item :: items => node item :: nodes items

def pairNodes : List (Key × Tree) → List (Node × Node)
  | [] => []
  | (key, value) :: pairs => (key.node, node value) :: pairNodes pairs

end

end Tree

namespace Printer

mutual

/-- The tree of a value at a spot of a block. -/
def treeAt (spot : Spot) (indent column : ℕ) : Value → Tree
  | .bool b => .scalar ⟨if b then "true" else "false", true⟩
  | .int n => .scalar ⟨toString n, true⟩
  | .float x => .scalar ⟨String.ofList (floatText x), true⟩
  | .text s => .scalar (.ofText false (indent + 2) (column + 1) s)
  | .list items =>
    .sequence (itemTrees (if spot = .behindKey then indent else indent + 2) items)
  | .map pairs => .mapping (pairTrees (indent + 2) pairs)
  | _ => .scalar ⟨"null", true⟩

def itemTrees (indent : ℕ) : List Value → List Tree
  | [] => []
  | item :: items => treeAt .behindMark indent (indent + 1) item :: itemTrees indent items

def pairTree (indent : ℕ) : Value × Value → Key × Tree
  | (.text key, value) =>
    if isSimpleKey key then
      (⟨⟨key, styleOf true key = .plain⟩, true⟩,
        treeAt .behindKey indent (indent + (textAt true (indent + 2) indent key).length + 1) value)
    else
      (⟨.ofText false (indent + 2) (indent + 2) key, false⟩,
        treeAt .behindMark indent (indent + 1) value)
  | (_, value) => (⟨⟨"", true⟩, false⟩, treeAt .behindMark indent (indent + 1) value)

def pairTrees (indent : ℕ) : List (Value × Value) → List (Key × Tree)
  | [] => []
  | pair :: pairs => pairTree indent pair :: pairTrees indent pairs

end

end Printer

end NodeGraph.Yaml
