import NodeGraph.Pattern.Syntax
import NodeGraph.Text.CharacterName
import NodeGraph.Text.Digit
import NodeGraph.Text.Word

/-!
# Reading patterns

`Pattern.read` turns the text of a pattern into its tree. A text is read as a list of pieces, a
piece being a character or a backslash with the character behind it.
-/

namespace NodeGraph.Pattern

/-- A character, a backslash with the character behind it, or a backslash at the end. -/
inductive Piece where
  | plain (c : Char)
  | escaped (c : Char)
  | dangling
  deriving DecidableEq, Inhabited

def pieces : List Char → List Piece
  | [] => []
  | ['\\'] => [.dangling]
  | '\\' :: c :: rest => .escaped c :: pieces rest
  | c :: rest => .plain c :: pieces rest

structure Flags where
  ignoreCase : Bool := false
  multiline : Bool := false
  dotAll : Bool := false
  verbose : Bool := false
  ascii : Bool := false
  unicode : Bool := false
  deriving Inhabited

namespace Flags

def set? (flags : Flags) : Char → Option Flags
  | 'i' => some { flags with ignoreCase := true }
  | 'm' => some { flags with multiline := true }
  | 's' => some { flags with dotAll := true }
  | 'x' => some { flags with verbose := true }
  | 'a' => some { flags with ascii := true }
  | 'u' => some { flags with unicode := true }
  | _ => none

/-- All flags of both. -/
def union (f g : Flags) : Flags :=
  ⟨f.ignoreCase || g.ignoreCase, f.multiline || g.multiline, f.dotAll || g.dotAll,
    f.verbose || g.verbose, f.ascii || g.ascii, f.unicode || g.unicode⟩

/-- The flags inside a group that switches some on and some off. Naming a character range replaces
the one outside. -/
def adjust (flags on off : Flags) : Flags :=
  let flags := if on.ascii || on.unicode then { flags with ascii := false, unicode := false }
    else flags
  let flags := flags.union on
  { flags with
    ignoreCase := flags.ignoreCase && !off.ignoreCase
    multiline := flags.multiline && !off.multiline
    dotAll := flags.dotAll && !off.dotAll
    verbose := flags.verbose && !off.verbose }

/-- Whether two sets of flags share one. -/
def overlap (f g : Flags) : Bool :=
  (f.ignoreCase && g.ignoreCase) || (f.multiline && g.multiline) || (f.dotAll && g.dotAll) ||
    (f.verbose && g.verbose)

def manner (flags : Flags) : Manner := ⟨flags.ignoreCase, flags.ascii⟩

end Flags

/-- The pieces still to be read, and what is known so far: the flags of the whole pattern, the
widths of the groups by number (`none` while a group is open), the names of groups, the groups that
conditions refer to, the number of groups before the outermost lookbehind that is open, and whether
some lookbehind has no fixed width. -/
structure Reader where
  rest : List Piece
  globals : Flags
  widths : List (Option (Nat × Nat))
  names : List (String × Nat)
  conditions : List Nat
  lookbehind : Option Nat
  variableWidth : Bool

abbrev Read (α : Type) := Except PatternFault α

def fail {α : Type} : Read α := .error .malformed

namespace Reader

/-- The number that the next group will have. -/
def groups (r : Reader) : Nat := r.widths.length + 1

def isClosed (r : Reader) (index : Nat) : Bool :=
  match r.widths[index - 1]? with
  | some (some _) => index ≠ 0
  | _ => false

def groupWidth (r : Reader) (index : Nat) : Nat × Nat :=
  ((r.widths[index - 1]?).bind id).getD (0, 0)

/-- Takes the given character, if it comes next. -/
def accept? (r : Reader) (c : Char) : Option Reader :=
  match r.rest with
  | .plain d :: rest => if c = d then some { r with rest := rest } else none
  | _ => none

def close (r : Reader) : Read Reader :=
  match r.accept? ')' with
  | some r => .ok r
  | none => fail

/-- The characters at the front that satisfy `p`, at most `count`. -/
def takeWhile (p : Char → Bool) : Nat → List Piece → List Char × List Piece
  | 0, rest => ([], rest)
  | count + 1, .plain c :: rest =>
    if p c then
      let (taken, rest) := takeWhile p count rest
      (c :: taken, rest)
    else ([], .plain c :: rest)
  | _, rest => ([], rest)

/-- The nonempty text up to a terminator. An escaped character may not be part of it. -/
def until? (terminator : Char) : List Piece → Option (List Char × List Piece)
  | .plain c :: rest =>
    if c = terminator then some ([], rest)
    else (until? terminator rest).map fun (name, rest) => (c :: name, rest)
  | _ => none

/-- A group may be referred to once it is closed; inside a lookbehind only if it was opened
before. -/
def checkReference (r : Reader) (index : Nat) : Read Unit :=
  match r.lookbehind with
  | none => .ok ()
  | some limit => if r.isClosed index ∧ index < limit then .ok () else fail

end Reader

def isDigitChar (c : Char) : Bool := (asciiDigit? c).isSome

def isOctal (c : Char) : Bool := '0' ≤ c && c ≤ '7'

def isHex (c : Char) : Bool := (baseDigit? 16 c).isSome

def isAsciiLetter (c : Char) : Bool := ('a' ≤ c && c ≤ 'z') || ('A' ≤ c && c ≤ 'Z')

def codeOf (base : Nat) (cs : List Char) : Nat := ofDigits base (cs.filterMap (baseDigit? base))

/-- A name is a word that does not start with a digit. -/
def isName (cs : List Char) : Bool :=
  cs.all isWord && cs.head?.any fun c => !isDecimalDigit c

/-! ## Escapes -/

def category? : Char → Option SetItem
  | 'd' => some (.category .digit false)
  | 'D' => some (.category .digit true)
  | 's' => some (.category .space false)
  | 'S' => some (.category .space true)
  | 'w' => some (.category .word false)
  | 'W' => some (.category .word true)
  | _ => none

def control? : Char → Option Nat
  | 'a' => some 7
  | 'f' => some 12
  | 'n' => some 10
  | 'r' => some 13
  | 't' => some 9
  | 'v' => some 11
  | _ => none

/-- A code point of exactly `count` hexadecimal digits. -/
def hexEscape (count : Nat) (rest : List Piece) : Read (Nat × List Piece) :=
  let (digits, rest) := Reader.takeWhile isHex count rest
  let code := codeOf 16 digits
  if digits.length = count ∧ code ≤ 0x10FFFF then .ok (code, rest) else fail

/-- The characters up to a closing brace, and what is behind it. -/
def bracedName : List Piece → Read (List Char × List Piece)
  | .plain '}' :: rest => .ok ([], rest)
  | .plain c :: rest => do
    let (name, rest) ← bracedName rest
    return (c :: name, rest)
  | _ => fail

/-- A character by its name, in braces. -/
def namedEscape : List Piece → Read (Nat × List Piece)
  | .plain '{' :: rest => do
    let (name, rest) ← bracedName rest
    match CharacterName.code? (String.ofList name) with
    | some code => return (code, rest)
    | none => fail
  | _ => fail

/-- Escapes that mean the same inside and outside of sets, apart from digits. -/
def commonEscape (c : Char) (rest : List Piece) : Read (Nat × List Piece) :=
  match control? c with
  | some code => .ok (code, rest)
  | none =>
    if c = 'x' then hexEscape 2 rest
    else if c = 'u' then hexEscape 4 rest
    else if c = 'U' then hexEscape 8 rest
    else if c = 'N' then namedEscape rest
    else if isAsciiLetter c then fail
    else .ok (c.toNat, rest)

/-- An escape inside a set. -/
def setEscape (c : Char) (rest : List Piece) : Read (SetItem × List Piece) :=
  match category? c with
  | some item => .ok (item, rest)
  | none =>
    if c = 'b' then .ok (.code 8, rest)
    else if isOctal c then
      let (more, rest) := Reader.takeWhile isOctal 2 rest
      let code := codeOf 8 (c :: more)
      if code ≤ 0o377 then .ok (.code code, rest) else fail
    else if isDigitChar c then fail
    else (commonEscape c rest).map fun (code, rest) => (.code code, rest)

/-- An escaped digit other than zero: three octal digits are a character, else the number of a
closed group. -/
def digitEscape (flags : Flags) (c : Char) (r : Reader) : Read (Pattern × Reader) := do
  let (second, rest) := Reader.takeWhile isDigitChar 1 r.rest
  let (third, after) := Reader.takeWhile isOctal 1 rest
  if isOctal c && !second.isEmpty && second.all isOctal && !third.isEmpty then
    let code := codeOf 8 (c :: (second ++ third))
    if code ≤ 0o377 then return (.literal flags.manner code, { r with rest := after }) else fail
  else
    let index := codeOf 10 (c :: second)
    if r.isClosed index then
      r.checkReference index
      return (.backref flags.manner index, { r with rest := rest })
    else fail

/-- Whether an item can be repeated: an anchor cannot, and neither can a repetition. -/
inductive Repeatable where
  | yes
  | anchor
  | already
  deriving DecidableEq

abbrev Item := Pattern × Repeatable

/-- An escape outside of sets. -/
def escape (flags : Flags) (c : Char) (r : Reader) : Read (Item × Reader) :=
  match category? c with
  | some item => .ok ((.oneOf flags.manner false [item], .yes), r)
  | none =>
    if c = 'A' then .ok ((.anchor .textStart, .anchor), r)
    else if c = 'Z' then .ok ((.anchor .textEnd, .anchor), r)
    else if c = 'b' then .ok ((.anchor (.wordEdge false flags.ascii), .anchor), r)
    else if c = 'B' then .ok ((.anchor (.wordEdge true flags.ascii), .anchor), r)
    else if c = '0' then
      let (more, rest) := Reader.takeWhile isOctal 2 r.rest
      .ok ((.literal flags.manner (codeOf 8 more), .yes), { r with rest := rest })
    else if isDigitChar c then (digitEscape flags c r).map fun (p, r) => ((p, .yes), r)
    else (commonEscape c r.rest).map fun (code, rest) =>
      ((.literal flags.manner code, .yes), { r with rest := rest })

/-! ## Sets -/

/-- One member of a set, as it stands before a possible range. -/
def setMember : List Piece → Read (SetItem × List Piece)
  | .plain c :: rest => .ok (.code c.toNat, rest)
  | .escaped c :: rest => setEscape c rest
  | _ => fail

/-- The members of a set up to its bracket; `first` allows a bracket to be a member. -/
def setItems (first : Bool) : Nat → List Piece → Read (List SetItem × List Piece)
  | 0, _ => fail
  | fuel + 1, rest =>
    match first, rest with
    | false, .plain ']' :: rest => .ok ([], rest)
    | _, rest => do
      let (low, rest) ← setMember rest
      match rest with
      | .plain '-' :: .plain ']' :: rest => return ([low, .code 45], rest)
      | .plain '-' :: rest => do
        let (high, rest) ← setMember rest
        match low, high with
        | .code a, .code b =>
          if b < a then fail
          else
            let (items, rest) ← setItems false fuel rest
            return (.range a b :: items, rest)
        | _, _ => fail
      | rest => do
        let (items, rest) ← setItems false fuel rest
        return (low :: items, rest)

/-- A set behind its opening bracket. -/
def set (flags : Flags) (r : Reader) : Read (Pattern × Reader) := do
  let (negated, r) := match r.accept? '^' with
    | some r => (true, r)
    | none => (false, r)
  let (items, rest) ← setItems true (r.rest.length + 1) r.rest
  return (.oneOf flags.manner negated items, { r with rest := rest })

/-! ## Repetition -/

/-- A count of repetitions has to stay below the largest. -/
def count (digits : List Char) : Read (Option Nat) :=
  if digits.isEmpty then .ok none
  else
    let n := codeOf 10 digits
    if n < widthLimit then .ok (some n) else .error .repeatTooLarge

/-- The bounds between braces, behind the opening one; `none` if the brace is an ordinary
character. -/
def braces (rest : List Piece) : Read (Option (Nat × Option Nat × List Piece)) := do
  if rest.head? = some (.plain '\x7d') then return none
  let (low, after) := Reader.takeWhile isDigitChar rest.length rest
  let (high, after) := match after with
    | .plain ',' :: more => Reader.takeWhile isDigitChar more.length more
    | _ => (low, after)
  match after with
  | .plain '\x7d' :: after => do
    let least ← count low
    let most ← count high
    let least := least.getD 0
    if most.any (· < least) then fail else return some (least, most, after)
  | _ => return none

/-- A repetition of the item read last. -/
def repeatLast (least : Nat) (most : Option Nat) (items : List Item) (r : Reader) :
    Read (List Item × Reader) :=
  match items with
  | [] => fail
  | (_, .anchor) :: _ => fail
  | (_, .already) :: _ => fail
  | (body, .yes) :: earlier =>
    let (greed, r) :=
      match r.accept? '?', r.accept? '+' with
      | some r, _ => (Greed.lazy, r)
      | none, some r => (Greed.possessive, r)
      | none, none => (Greed.greedy, r)
    .ok ((.repeated greed least most body, .already) :: earlier, r)

/-! ## Flags in the pattern -/

def isTypeFlag (c : Char) : Bool := c = 'a' || c = 'u'

def isFlag (c : Char) : Bool := "imsxauL".toList.contains c

/-- Flags to switch on, up to `)`, `-` or `:`, which is given with them. -/
def flagsOn (on : Flags) : List Piece → Read (Flags × Char × List Piece)
  | .plain c :: rest =>
    if c = ')' ∨ c = '-' ∨ c = ':' then .ok (on, c, rest)
    else
      match on.set? c with
      | some flags => if flags.ascii && flags.unicode then fail else flagsOn flags rest
      | none => fail
  | _ => fail

/-- Flags to switch off, up to `:`; those for the range of characters cannot be. -/
def flagsOff (off : Flags) : List Piece → Read (Flags × List Piece)
  | .plain c :: rest =>
    if c = ':' then .ok (off, rest)
    else if isTypeFlag c then fail
    else
      match off.set? c with
      | some flags => flagsOff flags rest
      | none => fail
  | _ => fail

/-- What a group with flags does: set them for the whole pattern, or inside the group. -/
inductive FlagGroup where
  | forAll (on : Flags)
  | inside (on off : Flags)

def flagGroup (rest : List Piece) : Read (FlagGroup × List Piece) := do
  let (on, stop, rest) ← flagsOn {} rest
  if stop = ')' then return (.forAll on, rest)
  else if stop = ':' then return (.inside on {}, rest)
  else
    match rest with
    | .plain ':' :: _ => fail
    | _ => do
      let (off, rest) ← flagsOff {} rest
      if on.overlap off then fail else return (.inside on off, rest)

/-- The pieces behind a comment. -/
def skipComment : List Piece → Read (List Piece)
  | [] => fail
  | .plain ')' :: rest => .ok rest
  | .dangling :: _ => fail
  | _ :: rest => skipComment rest

/-- The pieces behind the line that a verbose comment stands on. -/
def skipLine : List Piece → List Piece
  | [] => []
  | .plain '\n' :: rest => rest
  | [.dangling] => [.dangling]
  | _ :: rest => skipLine rest

/-! ## The grammar -/

def openGroup (name : Option String) (r : Reader) : Read (Nat × Reader) :=
  let index := r.groups
  let r := { r with widths := r.widths ++ [none] }
  match name with
  | none => .ok (index, r)
  | some name =>
    if (r.names.lookup name).isSome then fail
    else .ok (index, { r with names := (name, index) :: r.names })

def closeGroup (index : Nat) (body : Pattern) (r : Reader) : Reader :=
  { r with widths := r.widths.set (index - 1) (some (body.width r.groupWidth)) }

/-- A name between delimiters. -/
def groupName (terminator : Char) (rest : List Piece) : Read (String × List Piece) :=
  match Reader.until? terminator rest with
  | some (name, rest) => if isName name then .ok (String.ofList name, rest) else fail
  | none => fail

/-- The group that a condition asks about: by number, which may come later, or by name. -/
def conditionGroup (r : Reader) : Read (Nat × Reader) := do
  let some (name, rest) := Reader.until? ')' r.rest | fail
  let r := { r with rest := rest }
  if !name.isEmpty && name.all isDigitChar then
    let index := codeOf 10 name
    if index = 0 then fail
    r.checkReference index
    return (index, { r with conditions := index :: r.conditions })
  else if isName name then
    match r.names.lookup (String.ofList name) with
    | some index => do
      r.checkReference index
      return (index, r)
    | none => fail
  else fail

mutual

/-- Alternatives up to a closing parenthesis or the end. `top` for those of the whole pattern,
where flags may be set for all of it. -/
def alternatives (top : Bool) (flags : Flags) :
    Nat → Reader → Except PatternFault (Pattern × Reader)
  | 0, _ => fail
  | fuel + 1, r => do
    let (first, r) ← items top flags [] fuel r
    let (others, r) ← moreAlternatives top flags fuel r
    return (choice (first :: others), r)

def moreAlternatives (top : Bool) (flags : Flags) :
    Nat → Reader → Except PatternFault (List Pattern × Reader)
  | 0, _ => fail
  | fuel + 1, r =>
    match r.accept? '|' with
    | none => .ok ([], r)
    | some r => do
      let flags := if top then r.globals else flags
      let (next, r) ← items false flags [] fuel r
      let (others, r) ← moreAlternatives top flags fuel r
      return (next :: others, r)

/-- The items of a sequence; `read` are those so far, the last one first. `first` while flags for
the whole pattern may be set. -/
def items (first : Bool) (flags : Flags) (read : List Item) :
    Nat → Reader → Except PatternFault (Pattern × Reader)
  | 0, _ => fail
  | fuel + 1, r =>
    let finished : Pattern := sequence (read.reverse.map (·.1))
    let push (item : Item) (r : Reader) := items first flags (item :: read) fuel r
    match r.rest with
    | [] => .ok (finished, r)
    | .dangling :: _ => fail
    | .escaped c :: rest => do
      let (item, r) ← escape flags c { r with rest := rest }
      push item r
    | .plain c :: rest =>
      let after : Reader := { r with rest := rest }
      if c = '|' ∨ c = ')' then .ok (finished, r)
      else if flags.verbose ∧ (c = ' ' ∨ ('\t' ≤ c ∧ c ≤ '\r')) then
        items first flags read fuel after
      else if flags.verbose ∧ c = '#' then
        items first flags read fuel { r with rest := skipLine rest }
      else if c = '[' then do
        let (p, r) ← set flags after
        push (p, .yes) r
      else if c = '*' ∨ c = '+' ∨ c = '?' then do
        let least := if c = '+' then 1 else 0
        let most := if c = '?' then some 1 else none
        let (read, r) ← repeatLast least most read after
        items first flags read fuel r
      else if c = '\x7b' then do
        match ← braces rest with
        | none => push (.literal flags.manner c.toNat, .yes) after
        | some (least, most, rest) => do
          let (read, r) ← repeatLast least most read { r with rest := rest }
          items first flags read fuel r
      else if c = '.' then push (.any flags.dotAll, .yes) after
      else if c = '^' then push (.anchor (.lineStart flags.multiline), .anchor) after
      else if c = '$' then push (.anchor (.lineEnd flags.multiline), .anchor) after
      else if c = '(' then
        match rest with
        | .plain '?' :: rest => extension first flags read fuel { r with rest := rest }
        | _ => do
          let (item, r) ← capture none flags fuel after
          push item r
      else push (.literal flags.manner c.toNat, .yes) after

/-- A group that captures what it matches. -/
def capture (name : Option String) (flags : Flags) :
    Nat → Reader → Except PatternFault (Item × Reader)
  | 0, _ => fail
  | fuel + 1, r => do
    let (index, r) ← openGroup name r
    let (body, r) ← alternatives false flags fuel r
    let r ← r.close
    return ((.group index body, .yes), closeGroup index body r)

/-- A parenthesis with a question mark, behind both. -/
def extension (first : Bool) (flags : Flags) (read : List Item) :
    Nat → Reader → Except PatternFault (Pattern × Reader)
  | 0, _ => fail
  | fuel + 1, r =>
    let push (item : Item) (r : Reader) := items first flags (item :: read) fuel r
    let enclosed (flags : Flags) (rest : List Piece) :
        Except PatternFault (Pattern × Reader) := do
      let (body, r) ← alternatives false flags fuel { r with rest := rest }
      return (body, ← r.close)
    match r.rest with
    | .plain 'P' :: .plain '<' :: rest => do
      let (name, rest) ← groupName '>' rest
      let (item, r) ← capture (some name) flags fuel { r with rest := rest }
      push item r
    | .plain 'P' :: .plain '=' :: rest => do
      let (name, rest) ← groupName ')' rest
      match r.names.lookup name with
      | some index => do
        if !r.isClosed index then fail
        r.checkReference index
        push (.backref flags.manner index, .yes) { r with rest := rest }
      | none => fail
    | .plain ':' :: rest => do
      let (body, r) ← enclosed flags rest
      push (body, .yes) r
    | .plain '#' :: rest => do
      let rest ← skipComment rest
      items first flags read fuel { r with rest := rest }
    | .plain '=' :: rest => do
      let (body, r) ← enclosed flags rest
      push (.ahead false body, .yes) r
    | .plain '!' :: rest => do
      let (body, r) ← enclosed flags rest
      push (.ahead true body, .yes) r
    | .plain '<' :: .plain sign :: rest => do
      if sign ≠ '=' ∧ sign ≠ '!' then fail
      let outer := r.lookbehind
      let r := { r with rest := rest, lookbehind := some (outer.getD r.groups) }
      let (body, r) ← alternatives false flags fuel r
      let r ← { r with lookbehind := outer }.close
      let (low, high) := body.width r.groupWidth
      push (.behind (sign = '!') low body, .yes)
        { r with variableWidth := r.variableWidth || low ≠ high }
    | .plain '(' :: rest => do
      let (index, r) ← conditionGroup { r with rest := rest }
      let (yes, r) ← items false flags [] fuel r
      let (no, r) ← match r.accept? '|' with
        | some r => do
          let (no, r) ← items false flags [] fuel r
          if (r.accept? '|').isSome then fail
          pure (no, r)
        | none => pure (.empty, r)
      let r ← r.close
      push (.ifGroup index yes no, .yes) r
    | .plain '>' :: rest => do
      let (body, r) ← enclosed flags rest
      push (.atomic body, .yes) r
    | .plain c :: _ => do
      if !isFlag c ∧ c ≠ '-' then fail
      match ← flagGroup r.rest with
      | (.forAll on, rest) =>
        if first ∧ read.isEmpty then
          let globals := r.globals.union on
          items first globals read fuel { r with rest := rest, globals := globals }
        else fail
      | (.inside on off, rest) => do
        let (body, r) ← enclosed (flags.adjust on off) rest
        push (body, .yes) r
    | _ => fail

end

/-- The pattern that a text describes. -/
def read (text : String) : Except PatternFault Pattern := do
  let pieces := pieces text.toList
  let start : Reader := ⟨pieces, {}, [], [], [], none, false⟩
  let (pattern, r) ← alternatives true {} (4 * pieces.length + 8) start
  if r.globals.ascii && r.globals.unicode then throw .incompatibleFlags
  if !r.rest.isEmpty || r.conditions.any (r.groups ≤ ·) || r.variableWidth then fail
  return pattern

end NodeGraph.Pattern
