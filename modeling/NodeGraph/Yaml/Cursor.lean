import NodeGraph.Yaml.Token

/-!
# A place in a document

The characters still to be read, with the line and column of the first of them. Past the end the
next character reads as `U+0000`, which cannot occur in a document.
-/

namespace NodeGraph.Yaml

/-- The characters that end a line. -/
def isBreak (c : Char) : Bool :=
  c = '\n' || c = '\r' || c = '\x85' || c = '\u2028' || c = '\u2029'

def isEnd (c : Char) : Bool := c = '\x00'

def isBreakOrEnd (c : Char) : Bool := isBreak c || isEnd c

def isSpaceBreakOrEnd (c : Char) : Bool := c = ' ' || isBreakOrEnd c

/-- A blank, in the sense in which an indicator has to be followed by one. -/
def isGap (c : Char) : Bool := c = '\t' || isSpaceBreakOrEnd c

/-- The characters of a document: printable ones and the usual white space. -/
def isDocumentChar (c : Char) : Bool :=
  let n := c.toNat
  n = 9 || n = 10 || n = 13 || (0x20 ≤ n && n ≤ 0x7E) || n = 0x85 || (0xA0 ≤ n && n ≤ 0xD7FF) ||
    (0xE000 ≤ n && n ≤ 0xFFFD) || 0x10000 ≤ n

structure Cursor where
  rest : List Char
  line : Nat
  column : Nat
  index : Nat
  deriving Inhabited

namespace Cursor

def ofText (s : String) : Cursor := ⟨s.toList, 0, 0, 0⟩

def head (c : Cursor) : Char := c.rest.headD '\x00'

/-- The character `n` places on. -/
def peek (c : Cursor) (n : Nat) : Char := c.rest.getD n '\x00'

def next (c : Cursor) : Cursor :=
  match c.rest with
  | [] => c
  | ch :: rest =>
    let endsLine := if ch = '\r' then rest.head? ≠ some '\n' else isBreak ch
    if endsLine then ⟨rest, c.line + 1, 0, c.index + 1⟩
    else ⟨rest, c.line, if ch = '\uFEFF' then c.column else c.column + 1, c.index + 1⟩

def skip (c : Cursor) : Nat → Cursor
  | 0 => c
  | n + 1 => c.next.skip n

/-- The characters at the cursor that satisfy `p`, and the cursor behind them. -/
def span (c : Cursor) (p : Char → Bool) : List Char × Cursor :=
  let taken := c.rest.takeWhile p
  (taken, c.skip taken.length)

def skipWhile (c : Cursor) (p : Char → Bool) : Cursor := (c.span p).2

/-- A line break, if one is here, as the character it stands for. -/
def takeBreak (c : Cursor) : Option Char × Cursor :=
  match c.rest with
  | '\r' :: '\n' :: _ => (some '\n', c.skip 2)
  | ch :: _ =>
    if ch = '\u2028' ∨ ch = '\u2029' then (some ch, c.next)
    else if isBreak ch then (some '\n', c.next)
    else (none, c)
  | [] => (none, c)

/-- Whether three equal characters and a gap stand here: `---` or `...`. -/
def atMarker (c : Cursor) (ch : Char) : Bool :=
  c.head = ch && c.peek 1 = ch && c.peek 2 = ch && isGap (c.peek 3)

/-- Whether a line that ends or starts a document stands here. -/
def atSeparator (c : Cursor) : Bool := c.atMarker '-' || c.atMarker '.'

end Cursor

end NodeGraph.Yaml
