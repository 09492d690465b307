import NodeGraph.Yaml.Scalar

/-!
# From text to tokens

`Token.ofText` reads a document character by character. The state keeps the columns of the open
blocks, the number of open flow brackets, and for each bracket depth the place where a simple key
may have started: when the `:` comes, the `key` token is put in front of it after the fact.
-/

namespace NodeGraph.Yaml

/-- A place where a key of a mapping may have started. `position` counts the tokens before it. A
required key is at the column of its block, so that no other token can stand there. -/
structure PendingKey where
  depth : Nat
  position : Nat
  required : Bool
  index : Nat
  line : Nat
  column : Nat

/-- `indents` are the columns of the enclosing blocks, innermost first, and `indent` that of the
current one, `-1` outside all blocks. `emitted` holds the tokens so far, the latest first. -/
structure Lexer where
  cursor : Cursor
  indent : Int
  indents : List Int
  depth : Nat
  keyAllowed : Bool
  keys : List PendingKey
  emitted : List Token

namespace Lexer

def start (s : String) : Lexer :=
  ⟨.ofText s, -1, [], 0, true, [], []⟩

def inFlow (l : Lexer) : Bool := l.depth ≠ 0

def emit (l : Lexer) (t : Token) : Lexer := { l with emitted := t :: l.emitted }

/-- The tokens with `t` put in behind the first `position` of them. -/
def insertAt (position : Nat) (t : Token) (emitted : List Token) : List Token :=
  let later := emitted.take (emitted.length - position)
  later ++ t :: emitted.drop (emitted.length - position)

/-- Skips blanks, comments and line breaks. Behind a line break a key may start. -/
def skipToToken : Nat → Lexer → Lexer
  | 0, l => l
  | fuel + 1, l =>
    let c := l.cursor.skipWhile (· = ' ')
    let c := if c.head = '#' then c.skipWhile (!isBreak ·) else c
    match c.takeBreak with
    | (some _, c) =>
      skipToToken fuel { l with cursor := c, keyAllowed := l.keyAllowed || !l.inFlow }
    | (none, c) => { l with cursor := c }

/-- Gives up the keys that started on an earlier line or too far back. -/
def dropStaleKeys (l : Lexer) : Except Fault Lexer :=
  let isStale (k : PendingKey) : Bool :=
    k.line ≠ l.cursor.line || 1024 < l.cursor.index - k.index
  if l.keys.any fun k => isStale k && k.required then .error .malformed
  else .ok { l with keys := l.keys.filter (!isStale ·) }

/-- Gives up the key at the current depth. -/
def dropKey (l : Lexer) : Except Fault Lexer :=
  if l.keys.any fun k => k.depth = l.depth && k.required then .error .malformed
  else .ok { l with keys := l.keys.filter (·.depth ≠ l.depth) }

/-- Notes that a key may start here. -/
def saveKey (l : Lexer) : Except Fault Lexer :=
  if l.keyAllowed then do
    let required := !l.inFlow && l.indent = l.cursor.column
    let l ← l.dropKey
    let key : PendingKey :=
      ⟨l.depth, l.emitted.length, required, l.cursor.index, l.cursor.line, l.cursor.column⟩
    return { l with keys := key :: l.keys }
  else return l

/-- Closes the blocks that are indented deeper than `column`. -/
def closeBlocks (column : Int) : List Int → Lexer → Lexer
  | [], l => l
  | outer :: indents, l =>
    if column < l.indent then
      closeBlocks column indents { l.emit .blockEnd with indent := outer, indents := indents }
    else l

def unwind (l : Lexer) (column : Int) : Lexer :=
  if l.inFlow then l else closeBlocks column l.indents l

/-- Opens a block at `column` if that is deeper than the current one. -/
def openBlock (l : Lexer) (column : Nat) : Option Lexer :=
  if l.indent < column then
    some { l with indents := l.indent :: l.indents, indent := column }
  else none

/-- The same for a block whose first token is put in at `position`. -/
def openBlockAt (l : Lexer) (column : Nat) (position : Nat) (t : Token) : Lexer :=
  match l.openBlock column with
  | some l => { l with emitted := insertAt position t l.emitted }
  | none => l

def advance (l : Lexer) (n : Nat) : Lexer := { l with cursor := l.cursor.skip n }

/-! ## Directives, anchors and tags -/

def isAsciiLetterOrDigit (c : Char) : Bool :=
  ('a' ≤ c && c ≤ 'z') || ('A' ≤ c && c ≤ 'Z') || ('0' ≤ c && c ≤ '9')

def isNameChar (c : Char) : Bool := isAsciiLetterOrDigit c || c = '-' || c = '_'

def isUriChar (c : Char) : Bool :=
  isAsciiLetterOrDigit c || "-;/?:@&=+$,_.!~*'()[]%".toList.contains c

/-- The bytes of consecutive escapes such as `%C3%A9`. -/
def uriEscapes : Nat → Cursor → Except Fault (List UInt8 × Cursor)
  | 0, c => .ok ([], c)
  | fuel + 1, c =>
    if c.head = '%' then
      match baseDigit? 16 (c.peek 1), baseDigit? 16 (c.peek 2) with
      | some high, some low => do
        let (more, c) ← uriEscapes fuel (c.skip 3)
        return ((16 * high + low).toUInt8 :: more, c)
      | _, _ => .error .malformed
    else .ok ([], c)

def uriParts : Nat → Cursor → Except Fault (String × Cursor)
  | 0, c => .ok ("", c)
  | fuel + 1, c =>
    if c.head = '%' then do
      let (bytes, c) ← uriEscapes (c.rest.length + 1) c
      match String.fromUTF8? ⟨bytes.toArray⟩ with
      | some text =>
        let (more, c) ← uriParts fuel c
        return (text ++ more, c)
      | none => .error .malformed
    else if isUriChar c.head then do
      let (text, c) := c.span fun ch => isUriChar ch && ch ≠ '%'
      let (more, c) ← uriParts fuel c
      return (String.ofList text ++ more, c)
    else .ok ("", c)

/-- A part of a resource identifier, which has at least one character. -/
def uri (c : Cursor) : Except Fault (String × Cursor) :=
  if isUriChar c.head then uriParts (c.rest.length + 1) c else .error .malformed

/-- A tag handle: `!`, `!!` or `!name!`. -/
def tagHandle (c : Cursor) : Except Fault (String × Cursor) :=
  if c.head ≠ '!' then .error .malformed
  else if c.peek 1 = ' ' then .ok ("!", c.next)
  else
    let (name, after) := c.next.span isNameChar
    if after.head = '!' then .ok ("!" ++ String.ofList name ++ "!", after.next)
    else .error .malformed

def versionNumber (c : Cursor) : Except Fault (Nat × Cursor) :=
  let (digits, c) := c.span fun ch => (asciiDigit? ch).isSome
  match readNat? digits with
  | some n => .ok (n, c)
  | none => .error .malformed

def versionDirective (c : Cursor) : Except Fault (Token × Cursor) := do
  let (major, c) ← versionNumber (c.skipWhile (· = ' '))
  if c.head ≠ '.' then throw .malformed
  let (_, c) ← versionNumber c.next
  if isSpaceBreakOrEnd c.head then return (.version major, c) else throw .malformed

def tagDirective (c : Cursor) : Except Fault (Token × Cursor) := do
  let (handle, c) ← tagHandle (c.skipWhile (· = ' '))
  if c.head ≠ ' ' then throw .malformed
  let (stem, c) ← uri (c.skipWhile (· = ' '))
  if isSpaceBreakOrEnd c.head then return (.tagDirective handle stem, c) else throw .malformed

/-- A directive line, at its percent sign. -/
def directive (c : Cursor) : Except Fault (Token × Cursor) := do
  let (name, c) := c.next.span isNameChar
  if name.isEmpty || !isSpaceBreakOrEnd c.head then throw .malformed
  let (token, c) ←
    if name = "YAML".toList then versionDirective c
    else if name = "TAG".toList then tagDirective c
    else pure (.otherDirective, c.skipWhile (!isBreak ·))
  return (token, ← ignoredLine c)

/-- The name behind `&` or `*`. -/
def anchorName (c : Cursor) : Except Fault (String × Cursor) :=
  let (name, c) := c.next.span isNameChar
  if name.isEmpty || !(isGap c.head || "?:,]\x7d%@\x60".toList.contains c.head) then
    .error .malformed
  else .ok (String.ofList name, c)

/-- Whether a second `!` comes before the next space or line break. -/
def hasHandle : List Char → Bool
  | [] => false
  | ch :: rest => if isSpaceBreakOrEnd ch then false else ch = '!' || hasHandle rest

/-- A tag, at its `!`. -/
def tag (c : Cursor) : Except Fault (Token × Cursor) := do
  let (token, c) ←
    if c.peek 1 = '<' then do
      let (suffix, c) ← uri (c.skip 2)
      if c.head = '>' then pure (Token.tag none suffix, c.next) else throw .malformed
    else if isGap (c.peek 1) then pure (Token.tag none "!", c.next)
    else if hasHandle c.next.rest then do
      let (handle, c) ← tagHandle c
      let (suffix, c) ← uri c
      pure (Token.tag (some handle) suffix, c)
    else do
      let (suffix, c) ← uri c.next
      pure (Token.tag (some "!") suffix, c)
  if isSpaceBreakOrEnd c.head then return (token, c) else throw .malformed

/-! ## One token -/

/-- A directive or document marker: it closes all blocks. -/
def atMargin (l : Lexer) : Except Fault Lexer := do
  let l ← (l.unwind (-1)).dropKey
  return { l with keyAllowed := false }

def openBracket (l : Lexer) (t : Token) : Except Fault Lexer := do
  let l ← l.saveKey
  return ({ l with depth := l.depth + 1, keyAllowed := true }.advance 1).emit t

def closeBracket (l : Lexer) (t : Token) : Except Fault Lexer := do
  let l ← l.dropKey
  return ({ l with depth := l.depth - 1, keyAllowed := false }.advance 1).emit t

def flowEntry (l : Lexer) : Except Fault Lexer := do
  let l ← { l with keyAllowed := true }.dropKey
  return (l.advance 1).emit .flowEntry

/-- An indicator that may open a block at its own column. -/
def opening (l : Lexer) (t : Token) : Except Fault Lexer :=
  if l.inFlow then .ok l
  else if !l.keyAllowed then .error .malformed
  else match l.openBlock l.cursor.column with
    | some l => .ok (l.emit t)
    | none => .ok l

def blockEntry (l : Lexer) : Except Fault Lexer := do
  let l ← l.opening .blockSequenceStart
  let l ← { l with keyAllowed := true }.dropKey
  return (l.advance 1).emit .blockEntry

def explicitKey (l : Lexer) : Except Fault Lexer := do
  let l ← l.opening .blockMappingStart
  let l ← { l with keyAllowed := !l.inFlow }.dropKey
  return (l.advance 1).emit .key

/-- The `:` behind a key. If the key was simple, its tokens come now. -/
def value (l : Lexer) : Except Fault Lexer :=
  match l.keys.find? (·.depth = l.depth) with
  | some k =>
    let l := { l with
      keys := l.keys.filter (·.depth ≠ l.depth)
      emitted := insertAt k.position .key l.emitted
      keyAllowed := false }
    let l := if l.inFlow then l else l.openBlockAt k.column k.position .blockMappingStart
    .ok ((l.advance 1).emit .value)
  | none => do
    let l ← l.opening .blockMappingStart
    let l ← { l with keyAllowed := !l.inFlow }.dropKey
    return (l.advance 1).emit .value

/-- A token that may be a simple key: alias, anchor, tag or scalar. -/
def item (l : Lexer) (read : Cursor → Except Fault (Token × Cursor)) : Except Fault Lexer := do
  let l ← l.saveKey
  let (token, c) ← read l.cursor
  return { l with keyAllowed := false, cursor := c }.emit token

def blockScalar (l : Lexer) (folded : Bool) : Except Fault Lexer := do
  let l ← { l with keyAllowed := true }.dropKey
  let (text, c) ← block folded l.indent l.cursor.next
  return { l with cursor := c }.emit (.scalar (String.ofList text) false)

def quotedScalar (double : Bool) (c : Cursor) : Except Fault (Token × Cursor) := do
  let (text, c) ← quoted double (c.rest.length + 1) c.next
  return (.scalar (String.ofList text) false, c)

def plainScalar (l : Lexer) : Except Fault Lexer := do
  let l ← l.saveKey
  let indent := (l.indent + 1).toNat
  let (text, broke, c) := plain l.inFlow indent (l.cursor.rest.length + 1) [] false l.cursor
  return { l with keyAllowed := broke, cursor := c }.emit (.scalar (String.ofList text) true)

/-- Whether a plain scalar may start here. -/
def startsPlain (l : Lexer) : Bool :=
  let ch := l.cursor.head
  let indicators := "-?:,[]\x7b\x7d#&*!|>'\"%@\x60".toList
  (!isGap ch && !indicators.contains ch) ||
    (!isGap (l.cursor.peek 1) && (ch = '-' || (!l.inFlow && (ch = '?' || ch = ':'))))

def docMarker (l : Lexer) (t : Token) : Except Fault Lexer := do
  return ((← l.atMargin).advance 3).emit t

/-- Reads the token at the cursor, which stands on no blank, comment or line break. -/
def token (l : Lexer) : Except Fault Lexer :=
  let c := l.cursor
  let flowOrGap := l.inFlow || isGap (c.peek 1)
  if c.head = '%' ∧ c.column = 0 then do
    let l ← l.atMargin
    let (t, c) ← directive l.cursor
    return { l with cursor := c }.emit t
  else if c.column = 0 ∧ c.atMarker '-' then l.docMarker .documentStart
  else if c.column = 0 ∧ c.atMarker '.' then l.docMarker .documentEnd
  else if c.head = '[' then l.openBracket .flowSequenceStart
  else if c.head = '\x7b' then l.openBracket .flowMappingStart
  else if c.head = ']' then l.closeBracket .flowSequenceEnd
  else if c.head = '\x7d' then l.closeBracket .flowMappingEnd
  else if c.head = ',' then l.flowEntry
  else if c.head = '-' ∧ isGap (c.peek 1) then l.blockEntry
  else if c.head = '?' ∧ flowOrGap then l.explicitKey
  else if c.head = ':' ∧ flowOrGap then l.value
  else if c.head = '*' then
    l.item fun c => (anchorName c).map fun (name, c) => (.alias name, c)
  else if c.head = '&' then
    l.item fun c => (anchorName c).map fun (name, c) => (.anchor name, c)
  else if c.head = '!' then l.item tag
  else if c.head = '|' ∧ !l.inFlow then l.blockScalar false
  else if c.head = '>' ∧ !l.inFlow then l.blockScalar true
  else if c.head = '\x27' then l.item (quotedScalar false)
  else if c.head = '\x22' then l.item (quotedScalar true)
  else if l.startsPlain then l.plainScalar
  else .error .malformed

/-- Skips to the next token and closes the blocks that end before it. -/
def prepare (l : Lexer) : Except Fault Lexer := do
  let l ← (skipToToken (l.cursor.rest.length + 1) l).dropStaleKeys
  return l.unwind l.cursor.column

/-- The tokens from here on, with those before; every token takes at least one character. -/
def run : Nat → Lexer → List Token
  | 0, l => (Token.stop none :: l.emitted).reverse
  | fuel + 1, l =>
    match l.prepare with
    | .error f => (Token.stop (some f) :: l.emitted).reverse
    | .ok l =>
      if l.cursor.rest.isEmpty then
        match l.atMargin with
        | .error f => (Token.stop (some f) :: l.emitted).reverse
        | .ok l => (Token.stop none :: l.emitted).reverse
      else
        match l.token with
        | .error f => (Token.stop (some f) :: l.emitted).reverse
        | .ok l => run fuel l

end Lexer

/-- The tokens of a text. A byte order mark may stand in front. -/
def Token.ofText (s : String) : List Token :=
  if s.toList.all isDocumentChar then
    let l := Lexer.start s
    let l := if l.cursor.head = '\uFEFF' then l.advance 1 else l
    l.run (s.length + 2)
  else [.stop (some .malformed)]

end NodeGraph.Yaml
