import NodeGraph.Number.Reading
import NodeGraph.Yaml.Cursor

/-!
# The text of scalars

Reading the text of a scalar in each of its styles: plain, between single or double quotation
marks, and as a literal or folded block. Line breaks inside a scalar fold: a single one is a space,
and of several the first disappears.
-/

namespace NodeGraph.Yaml

/-- What a folded line break with `breaks` empty lines behind it stands for. -/
def foldBreaks (first : Char) (breaks : List Char) : List Char :=
  if first ≠ '\n' then first :: breaks
  else if breaks.isEmpty then [' ']
  else breaks

/-! ## Flow scalars -/

/-- Empty lines and indentation inside a quoted scalar; a document separator may not come here. -/
def quotedBreaks : Nat → Cursor → Except Fault (List Char × Cursor)
  | 0, _ => .error .malformed
  | fuel + 1, c =>
    if c.atSeparator then .error .malformed
    else
      let c := c.skipWhile fun ch => ch = ' ' || ch = '\t'
      match c.takeBreak with
      | (some ch, c) => do
        let (more, c) ← quotedBreaks fuel c
        return (ch :: more, c)
      | (none, c) => .ok ([], c)

/-- Blanks inside a quoted scalar, folded if they contain a line break. -/
def quotedBlanks (c : Cursor) : Except Fault (List Char × Cursor) :=
  let (blanks, c) := c.span fun ch => ch = ' ' || ch = '\t'
  if isEnd c.head then .error .malformed
  else
    match c.takeBreak with
    | (some first, c) => do
      let (breaks, c) ← quotedBreaks (c.rest.length + 1) c
      return (foldBreaks first breaks, c)
    | (none, c) => .ok (blanks, c)

/-- The character that a one-letter escape stands for. -/
def simpleEscape? : Char → Option Char
  | '0' => some '\x00'
  | 'a' => some '\x07'
  | 'b' => some '\x08'
  | 't' => some '\t'
  | '\t' => some '\t'
  | 'n' => some '\n'
  | 'v' => some '\x0B'
  | 'f' => some '\x0C'
  | 'r' => some '\r'
  | 'e' => some '\x1B'
  | ' ' => some ' '
  | '\x22' => some '\x22'
  | '\\' => some '\\'
  | '/' => some '/'
  | 'N' => some '\x85'
  | '_' => some '\xA0'
  | 'L' => some '\u2028'
  | 'P' => some '\u2029'
  | _ => none

/-- The number of hexadecimal digits after an escape letter. -/
def escapeLength? : Char → Option Nat
  | 'x' => some 2
  | 'u' => some 4
  | 'U' => some 8
  | _ => none

/-- The character that the escape behind a backslash stands for; an escaped line break stands for
the empty lines behind it. -/
def escape (c : Cursor) : Except Fault (List Char × Cursor) :=
  match simpleEscape? c.head with
  | some ch => .ok ([ch], c.next)
  | none =>
    match escapeLength? c.head with
    | some count =>
      let digits := (c.rest.drop 1).take count
      match digits.mapM (baseDigit? 16) with
      | some values =>
        if values.length ≠ count then .error .malformed
        else
          let code := ofDigits 16 values
          if 0x10FFFF < code then .error .badScalar
          else .ok ([Char.ofNat code], c.skip (count + 1))
      | none => .error .malformed
    | none =>
      match c.takeBreak with
      | (some _, c) => quotedBreaks (c.rest.length + 1) c
      | (none, _) => .error .malformed

/-- The text up to the closing mark, behind the opening one. -/
def quoted (double : Bool) : Nat → Cursor → Except Fault (List Char × Cursor)
  | 0, _ => .error .malformed
  | fuel + 1, c =>
    let more (text : List Char) (c : Cursor) : Except Fault (List Char × Cursor) := do
      let (rest, c) ← quoted double fuel c
      return (text ++ rest, c)
    match c.rest with
    | [] => .error .malformed
    | ch :: _ =>
      if ch = ' ' ∨ ch = '\t' ∨ isBreak ch then do
        let (text, c) ← quotedBlanks c
        more text c
      else if double then
        if ch = '\x22' then .ok ([], c.next)
        else if ch = '\\' then do
          let (text, c) ← escape c.next
          more text c
        else more [ch] c.next
      else if ch = '\x27' then
        if c.peek 1 = '\x27' then more [ch] (c.skip 2) else .ok ([], c.next)
      else more [ch] c.next

/-- How many characters of a plain scalar stand here before a blank or an indicator. -/
def plainLength (inFlow : Bool) : List Char → Nat
  | [] => 0
  | ch :: rest =>
    let after := rest.headD '\x00'
    let stops :=
      isGap ch ||
      (ch = ':' && (isGap after || (inFlow && ",[]\x7b\x7d".toList.contains after))) ||
      (inFlow && ",?[]\x7b\x7d".toList.contains ch)
    if stops then 0 else plainLength inFlow rest + 1

/-- Empty lines and indentation between the lines of a plain scalar; `none` before a document
separator. -/
def plainBreaks : Nat → Cursor → Option (List Char) × Cursor
  | 0, c => (some [], c)
  | fuel + 1, c =>
    let c := c.skipWhile (· = ' ')
    match c.takeBreak with
    | (some ch, c) =>
      if c.atSeparator then (none, c)
      else
        let (more, c) := plainBreaks fuel c
        (more.map (ch :: ·), c)
    | (none, c) => (some [], c)

/-- The blanks behind a line of a plain scalar as the text they stand for if the scalar goes on,
and whether they contain a line break. -/
def plainBlanks (c : Cursor) : List Char × Bool × Cursor :=
  let (blanks, c) := c.span (· = ' ')
  match c.takeBreak with
  | (some first, c) =>
    if c.atSeparator then ([], true, c)
    else
      let (breaks, c) := plainBreaks (c.rest.length + 1) c
      ((breaks.map (foldBreaks first)).getD [], true, c)
  | (none, c) => (blanks, false, c)

/-- A plain scalar: its text, whether a line break was read behind its last character, and the
cursor. `blanks` is what stands between the text so far and the cursor. -/
def plain (inFlow : Bool) (indent : Nat) :
    Nat → List Char → Bool → Cursor → List Char × Bool × Cursor
  | 0, _, broke, c => ([], broke, c)
  | fuel + 1, blanks, broke, c =>
    let length := if c.head = '#' then 0 else plainLength inFlow c.rest
    if length = 0 then ([], broke, c)
    else
      let text := blanks ++ c.rest.take length
      let (blanks, broke, c) := plainBlanks (c.skip length)
      if blanks.isEmpty || c.head = '#' || (!inFlow && c.column < indent) then (text, broke, c)
      else
        let (more, broke, c) := plain inFlow indent fuel blanks broke c
        (text ++ more, broke, c)

/-! ## Block scalars -/

/-- What happens to the line breaks at the end of a block scalar. -/
inductive Chomping where
  | clip
  | strip
  | keep
  deriving DecidableEq

def chomping? : Char → Option Chomping
  | '+' => some .keep
  | '-' => some .strip
  | _ => none

/-- The indicators behind `|` or `>`: chomping and an indentation from 1 to 9, in any order. -/
def blockHeader (c : Cursor) : Except Fault (Chomping × Option Nat × Cursor) := do
  let digit (c : Cursor) : Except Fault (Option Nat × Cursor) :=
    match asciiDigit? c.head with
    | some 0 => .error .malformed
    | some d => .ok (some d, c.next)
    | none => .ok (none, c)
  let result ← match chomping? c.head with
    | some chomping => do
      let (increment, c) ← digit c.next
      pure (chomping, increment, c)
    | none => do
      let (increment, c) ← digit c
      match increment, chomping? c.head with
      | some _, some chomping => pure (chomping, increment, c.next)
      | _, _ => pure (.clip, increment, c)
  if isSpaceBreakOrEnd result.2.2.head then return result else throw .malformed

/-- The rest of a line that may hold only blanks and a comment. -/
def ignoredLine (c : Cursor) : Except Fault Cursor :=
  let c := c.skipWhile (· = ' ')
  let c := if c.head = '#' then c.skipWhile (!isBreak ·) else c
  if isBreakOrEnd c.head then .ok c.takeBreak.2 else .error .malformed

/-- The empty lines before the first line of a block scalar, and the widest indentation seen. -/
def leadingBreaks : Nat → Nat → Cursor → List Char × Nat × Cursor
  | 0, widest, c => ([], widest, c)
  | fuel + 1, widest, c =>
    if c.head = ' ' then
      let c := c.next
      leadingBreaks fuel (max widest c.column) c
    else
      match c.takeBreak with
      | (some ch, c) =>
        let (more, widest, c) := leadingBreaks fuel widest c
        (ch :: more, widest, c)
      | (none, c) => ([], widest, c)

/-- Skips spaces up to a column. -/
def skipIndent (indent : Nat) (c : Cursor) : Cursor :=
  c.skip ((c.rest.takeWhile (· = ' ')).length.min (indent - c.column))

/-- The empty lines between the lines of a block scalar. -/
def blockBreaks (indent : Nat) : Nat → Cursor → List Char × Cursor
  | 0, c => ([], c)
  | fuel + 1, c =>
    match (skipIndent indent c).takeBreak with
    | (some ch, c) =>
      let (more, c) := blockBreaks indent fuel c
      (ch :: more, c)
    | (none, c) => ([], c)

/-- The lines of a block scalar. `breaks` are the empty lines before the cursor. -/
def blockLines (folded : Bool) (chomping : Chomping) (indent : Nat) :
    Nat → List Char → Cursor → List Char × Cursor
  | 0, _, c => ([], c)
  | fuel + 1, breaks, c =>
    if c.column ≠ indent ∨ c.rest.isEmpty then
      (if chomping = .keep then breaks else [], c)
    else
      let startsBlank (c : Cursor) : Bool := c.head = ' ' || c.head = '\t'
      let (text, after) := c.span (!isBreak ·)
      let (lineBreak, after) := after.takeBreak
      let (empty, after) := blockBreaks indent (after.rest.length + 1) after
      let lead := breaks ++ text
      if after.column = indent ∧ ¬after.rest.isEmpty then
        let joint :=
          if folded && lineBreak = some '\n' && !startsBlank c && !startsBlank after then
            if empty.isEmpty then [' '] else []
          else lineBreak.toList
        let (more, after) := blockLines folded chomping indent fuel empty after
        (lead ++ joint ++ more, after)
      else
        let ending := match chomping with
          | .strip => []
          | .clip => lineBreak.toList
          | .keep => lineBreak.toList ++ empty
        (lead ++ ending, after)

/-- A block scalar, behind its `|` or `>`, in a block indented to `parent`. -/
def block (folded : Bool) (parent : Int) (c : Cursor) : Except Fault (List Char × Cursor) := do
  let (chomping, increment, c) ← blockHeader c
  let c ← ignoredLine c
  let least := (max (parent + 1) 1).toNat
  let (breaks, indent, c) := match increment with
    | some n =>
      let indent := least + n - 1
      let (breaks, c) := blockBreaks indent (c.rest.length + 1) c
      (breaks, indent, c)
    | none =>
      let (breaks, widest, c) := leadingBreaks (c.rest.length + 1) 0 c
      (breaks, max least widest, c)
  return blockLines folded chomping indent (c.rest.length + 1) breaks c

end NodeGraph.Yaml
