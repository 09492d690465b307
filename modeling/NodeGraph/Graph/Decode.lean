import NodeGraph.Graph
import NodeGraph.Schema
import NodeGraph.Table

/-!
# Reading graphs

The schemas of nodes, edges, graphs and project files.
-/

namespace NodeGraph

open Schema

def Position.decode (v : Value) : Checked Position :=
  (record v).bind fun pairs =>
    (Checked.good Position.mk).apply (defaulted ["x"] .zero float pairs)
    |>.apply (defaulted ["y"] .zero float pairs)

/-- Field values under text keys; of equal keys the last one counts. -/
def Fields.decode (v : Value) : Checked Fields :=
  (entries any v).map fun pairs => (Table.ofPairs pairs).entries.map fun (k, v) => (.text k, v)

def Node.decode (v : Value) : Checked Node :=
  (record v).bind fun pairs =>
    (Checked.good Node.mk).apply (required ["id"] text pairs)
    |>.apply (required ["type"] text pairs)
    |>.apply (defaulted ["position"] .origin Position.decode pairs)
    |>.apply (defaulted ["fields"] [] Fields.decode pairs)

/-- The pins of an edge that is read are texts. -/
def Edge.decode (v : Value) : Checked Edge :=
  (record v).bind fun pairs =>
    (Checked.good Edge.mk).apply (required ["id"] text pairs)
    |>.apply (required ["source"] text pairs)
    |>.apply ((required ["source_output"] text pairs).map .text)
    |>.apply (required ["target"] text pairs)
    |>.apply ((required ["target_input"] text pairs).map .text)

def Graph.decode (v : Value) : Checked Graph :=
  (record v).bind fun pairs =>
    (Checked.good Graph.mk).apply (defaulted ["nodes"] [] (list Node.decode) pairs)
    |>.apply (defaulted ["edges"] [] (list Edge.decode) pairs)

/-- A graph as it is kept in a file, with a format version and free data. -/
structure Project where
  version : String
  graph : Graph
  metadata : Fields
  deriving Inhabited

def Project.decode (v : Value) : Checked Project :=
  (record v).bind fun pairs =>
    (Checked.good Project.mk).apply (defaulted ["version"] "1.0" text pairs)
    |>.apply (defaulted ["graph"] .empty Graph.decode pairs)
    |>.apply (defaulted ["metadata"] [] Fields.decode pairs)

end NodeGraph
