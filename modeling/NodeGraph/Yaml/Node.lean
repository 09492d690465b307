import NodeGraph.Yaml.Lexer
import NodeGraph.Yaml.Tag

/-!
# The tree of a document

`Node.ofTokens` groups tokens into a tree of tagged scalars, sequences and mappings. An alias is
replaced by the node it refers to, which has to be complete. A text holds at most one document.
-/

namespace NodeGraph.Yaml

inductive Node where
  | scalar (tag : Tag) (text : String)
  | sequence (tag : Tag) (items : List Node)
  | mapping (tag : Tag) (pairs : List (Node × Node))
  deriving Inhabited

namespace Node

/-- A missing node. -/
def empty : Node := .scalar .null ""

/-- The tokens still to be grouped, and the anchors so far; one without a node is still open. -/
structure Reader where
  tokens : List Token
  anchors : List (String × Option Node)

abbrev NodeStep := Except Fault (Node × Reader)

abbrev ItemsStep := Except Fault (List Node × Reader)

abbrev PairsStep := Except Fault (List (Node × Node) × Reader)

namespace Reader

def head (r : Reader) : Token := r.tokens.headD (.stop none)

def next (r : Reader) : Reader := { r with tokens := r.tokens.tail }

/-- The fault of finding a token where it cannot stand. -/
def fault (r : Reader) : Fault :=
  match r.head with
  | .stop (some f) => f
  | _ => .malformed

def fail {α : Type} (r : Reader) : Except Fault α := .error r.fault

end Reader

/-- The tag handles of a document and what they stand for. -/
abbrev Handles := List (String × String)

/-- The tag of a node as it is written: `none` for no tag, and `!` for "by its kind". -/
def resolveTag (handles : Handles) : Option String → String → Except Fault String
  | none, suffix => .ok suffix
  | some handle, suffix =>
    match handles.lookup handle with
    | some stem => .ok (stem ++ suffix)
    | none => .error .malformed

/-- Anchor and tag in front of a node, in any order. -/
structure Properties where
  anchor : Option String
  tag : Option String

def takeAnchor (r : Reader) : Option String × Reader :=
  match r.head with
  | .anchor name => (some name, r.next)
  | _ => (none, r)

def takeTag (handles : Handles) (r : Reader) : Except Fault (Option String × Reader) :=
  match r.head with
  | .tag handle suffix => do return (some (← resolveTag handles handle suffix), r.next)
  | _ => .ok (none, r)

def takeProperties (handles : Handles) (r : Reader) : Except Fault (Properties × Reader) := do
  let (anchor, r) := takeAnchor r
  let (tag, r) ← takeTag handles r
  let (anchor, r) := if anchor.isNone then takeAnchor r else (anchor, r)
  return (⟨anchor, tag⟩, r)

/-- The tag of a scalar: by its text if it is plain or tagged `!`. -/
def scalarTag (tag : Option String) (text : String) (plain : Bool) : Tag :=
  match tag with
  | none => if plain then .ofPlain text else .str
  | some "!" => .ofPlain text
  | some name => .ofName name

def collectionTag (tag : Option String) (standard : Tag) : Tag :=
  match tag with
  | none => standard
  | some "!" => standard
  | some name => .ofName name

/-- The node that an alias refers to. -/
def aliased (r : Reader) (name : String) : Except Fault Node :=
  match r.anchors.lookup name with
  | some (some node) => .ok node
  | _ => .error .malformed

/-- Notes an anchor as open; no anchor may come twice. -/
def openAnchor (r : Reader) : Option String → Except Fault Reader
  | none => .ok r
  | some name =>
    if (r.anchors.lookup name).isSome then .error .malformed
    else .ok { r with anchors := (name, none) :: r.anchors }

def closeAnchor (r : Reader) (node : Node) : Option String → Reader
  | none => r
  | some name => { r with anchors := (name, some node) :: r.anchors }

mutual

/-- A node. `inBlock` allows block collections, `bare` also sequence entries without a block of
their own, as they may stand below a key. -/
def parse (handles : Handles) (inBlock bare : Bool) : Nat → Reader → NodeStep
  | 0, _ => .error .malformed
  | fuel + 1, r =>
    match r.head with
    | .alias name => do return (← aliased r name, r.next)
    | _ => do
      let (properties, r) ← takeProperties handles r
      let r ← openAnchor r properties.anchor
      let (node, r) ← content handles inBlock bare properties fuel r
      return (node, closeAnchor r node properties.anchor)

def content (handles : Handles) (inBlock bare : Bool) (properties : Properties) :
    Nat → Reader → NodeStep
  | 0, _ => .error .malformed
  | fuel + 1, r =>
    let sequenceOf (items : ItemsStep) : NodeStep := do
      let (items, r) ← items
      return (.sequence (collectionTag properties.tag .seq) items, r)
    let mappingOf (pairs : PairsStep) : NodeStep := do
      let (pairs, r) ← pairs
      return (.mapping (collectionTag properties.tag .map) pairs, r)
    match r.head with
    | .scalar text plain => .ok (.scalar (scalarTag properties.tag text plain) text, r.next)
    | .flowSequenceStart => sequenceOf (flowItems handles true fuel r.next)
    | .flowMappingStart => mappingOf (flowPairs handles true fuel r.next)
    | token =>
      if bare ∧ token = .blockEntry then sequenceOf (bareItems handles fuel r)
      else if inBlock ∧ token = .blockSequenceStart then
        sequenceOf (blockItems handles fuel r.next)
      else if inBlock ∧ token = .blockMappingStart then mappingOf (blockPairs handles fuel r.next)
      else if properties.anchor.isSome ∨ properties.tag.isSome then
        .ok (.scalar (scalarTag properties.tag "" true) "", r)
      else r.fail

/-- The entries of a block sequence up to its end. -/
def blockItems (handles : Handles) : Nat → Reader → ItemsStep
  | 0, _ => .error .malformed
  | fuel + 1, r =>
    match r.head with
    | .blockEntry => do
      let r := r.next
      let (item, r) ←
        if r.head = .blockEntry ∨ r.head = .blockEnd then pure (empty, r)
        else parse handles true false fuel r
      let (items, r) ← blockItems handles fuel r
      return (item :: items, r)
    | .blockEnd => .ok ([], r.next)
    | _ => r.fail

/-- The entries of a sequence that has no block of its own. -/
def bareItems (handles : Handles) : Nat → Reader → ItemsStep
  | 0, _ => .error .malformed
  | fuel + 1, r =>
    match r.head with
    | .blockEntry => do
      let r := r.next
      let (item, r) ←
        if r.head = .blockEntry ∨ r.head = .key ∨ r.head = .value ∨ r.head = .blockEnd then
          pure (empty, r)
        else parse handles true false fuel r
      let (items, r) ← bareItems handles fuel r
      return (item :: items, r)
    | _ => .ok ([], r)

/-- The pairs of a block mapping up to its end. A key may have no value behind it. -/
def blockPairs (handles : Handles) : Nat → Reader → PairsStep
  | 0, _ => .error .malformed
  | fuel + 1, r =>
    match r.head with
    | .key => do
      let (key, r) ← blockPart handles fuel r.next
      let (value, r) ← if r.head = .value then blockPart handles fuel r.next else pure (empty, r)
      let (pairs, r) ← blockPairs handles fuel r
      return ((key, value) :: pairs, r)
    | .blockEnd => .ok ([], r.next)
    | _ => r.fail

/-- The key or value of a block mapping. -/
def blockPart (handles : Handles) : Nat → Reader → NodeStep
  | 0, _ => .error .malformed
  | fuel + 1, r =>
    if r.head = .key ∨ r.head = .value ∨ r.head = .blockEnd then .ok (empty, r)
    else parse handles true true fuel r

/-- The entries of a flow sequence up to its bracket; `first` if none came before. -/
def flowItems (handles : Handles) (first : Bool) : Nat → Reader → ItemsStep
  | 0, _ => .error .malformed
  | fuel + 1, r =>
    if r.head = .flowSequenceEnd then .ok ([], r.next)
    else if !first ∧ r.head ≠ .flowEntry then r.fail
    else
      let r := if first then r else r.next
      if r.head = .flowSequenceEnd then .ok ([], r.next)
      else do
        let (item, r) ←
          if r.head = .key then do
            let (key, r) ← flowPart handles .flowSequenceEnd true fuel r.next
            let (value, r) ←
              if r.head = .value then flowPart handles .flowSequenceEnd false fuel r.next
              else pure (empty, r)
            pure (Node.mapping .map [(key, value)], r)
          else parse handles false false fuel r
        let (items, r) ← flowItems handles false fuel r
        return (item :: items, r)

/-- The pairs of a flow mapping up to its bracket; a node alone is a key without value. -/
def flowPairs (handles : Handles) (first : Bool) : Nat → Reader → PairsStep
  | 0, _ => .error .malformed
  | fuel + 1, r =>
    if r.head = .flowMappingEnd then .ok ([], r.next)
    else if !first ∧ r.head ≠ .flowEntry then r.fail
    else
      let r := if first then r else r.next
      if r.head = .flowMappingEnd then .ok ([], r.next)
      else do
        let (pair, r) ←
          if r.head = .key then do
            let (key, r) ← flowPart handles .flowMappingEnd true fuel r.next
            let (value, r) ←
              if r.head = .value then flowPart handles .flowMappingEnd false fuel r.next
              else pure (empty, r)
            pure ((key, value), r)
          else do
            let (key, r) ← parse handles false false fuel r
            pure ((key, empty), r)
        let (pairs, r) ← flowPairs handles false fuel r
        return (pair :: pairs, r)

/-- The key or value of a pair between brackets. -/
def flowPart (handles : Handles) (closing : Token) (isKey : Bool) : Nat → Reader → NodeStep
  | 0, _ => .error .malformed
  | fuel + 1, r =>
    if r.head = .flowEntry ∨ r.head = closing ∨ (isKey ∧ r.head = .value) then .ok (empty, r)
    else parse handles false false fuel r

end

/-! ## Documents -/

def defaultHandles : Handles := [("!", "!"), ("!!", Tag.standardStem)]

/-- The directives in front of a document: at most one version, which has to be 1, and at most one
tag directive for each handle. -/
def directives : List Token → Bool → Handles → Except Fault (Handles × List Token)
  | .version major :: rest, seen, handles =>
    if seen ∨ major ≠ 1 then .error .malformed else directives rest true handles
  | .tagDirective handle stem :: rest, seen, handles =>
    if (handles.lookup handle).isSome then .error .malformed
    else directives rest seen ((handle, stem) :: handles)
  | .otherDirective :: rest, seen, handles => directives rest seen handles
  | tokens, _, handles => .ok (handles ++ defaultHandles, tokens)

/-- Nothing may follow a document but its end markers. -/
def finish (r : Reader) : Except Fault Unit :=
  match r.tokens.dropWhile (· = .documentEnd) with
  | [.stop none] => .ok ()
  | tokens => { r with tokens := tokens }.fail

/-- The only document of a text, `none` for a text without one. -/
def ofTokens (tokens : List Token) : Except Fault (Option Node) := do
  let fuel := 4 * tokens.length + 8
  let start : Reader := ⟨tokens, []⟩
  let startsDocument : Bool := match start.head with
    | .version _ | .tagDirective _ _ | .otherDirective | .documentStart => true
    | _ => false
  if startsDocument then
    let (handles, tokens) ← directives tokens false []
    let r : Reader := ⟨tokens, []⟩
    if r.head ≠ .documentStart then r.fail
    let r := r.next
    let (node, r) ← match r.head with
      | .version _ | .tagDirective _ _ | .otherDirective | .documentStart | .documentEnd
      | .stop none => pure (empty, r)
      | _ => Node.parse handles true false fuel r
    finish r
    return some node
  else if start.head = .stop none then return none
  else
    let (node, r) ← parse defaultHandles true false fuel start
    finish r
    return some node

end Node

end NodeGraph.Yaml
