import NodeGraph.Pattern.Syntax
import NodeGraph.Text.Blank
import NodeGraph.Text.Digit
import NodeGraph.Text.LetterCase
import NodeGraph.Text.Word

/-!
# Matching a pattern

A pattern denotes a matcher: from a place in the text it tries the ways to match, in order of
preference, and passes each to what comes next until that succeeds. Matchers are defined by
recursion on the pattern; only a repetition counts, and it is bounded because an optional
repetition that starts where the previous one started is not tried.
-/

namespace NodeGraph.Pattern

/-- The text is held as code points. -/
abbrev Subject := Array Nat

/-- A place in the text and the stretches that the groups have matched, the latest first. -/
structure Place where
  index : Nat
  groups : List (Nat × Nat × Nat)

abbrev Continuation := Place → Option Place

abbrev Matcher := Place → Continuation → Option Place

/-! ## Single characters -/

def isSpaceCode (n : Nat) : Bool := isBlank (Char.ofNat n)

def Category.holds (ascii : Bool) (kind : Category) (n : Nat) : Bool :=
  match kind with
  | .digit => if ascii then 48 ≤ n && n ≤ 57 else isDecimalDigit (Char.ofNat n)
  | .space => if ascii then n = 32 || (9 ≤ n && n ≤ 13) else isSpaceCode n
  | .word => if ascii then n < 128 && isAsciiWord (Char.ofNat n) else isWord (Char.ofNat n)

/-- The lowercase of a code point, over ASCII or over all scripts. -/
def Manner.lower (manner : Manner) (n : Nat) : Nat :=
  if manner.ascii || n < 128 then (if 65 ≤ n ∧ n ≤ 90 then n + 32 else n) else lowerCode n

def Manner.isCased (manner : Manner) (n : Nat) : Bool :=
  if manner.ascii then (65 ≤ n && n ≤ 90) || (97 ≤ n && n ≤ 122) else insideBounds casedBounds n

/-- The lowercase code points that count as equal to a given one. -/
def Manner.variants (manner : Manner) (lower : Nat) : List Nat :=
  if manner.ascii then [lower] else caseClass lower

def Manner.sameCode (manner : Manner) (code n : Nat) : Bool :=
  if manner.ignoreCase && manner.isCased code then
    (manner.variants (manner.lower code)).contains (manner.lower n)
  else code == n

/-- Whether some code point of the range has the given one as its lowercase. -/
def Manner.rangeHasLower (manner : Manner) (low high lower : Nat) : Bool :=
  let preimages := if manner.ascii then
      (if 97 ≤ lower ∧ lower ≤ 122 then [lower - 32] else [])
    else upperCodes lower
  let self := if manner.lower lower = lower then [lower] else []
  (self ++ preimages).any fun n => low ≤ n && n ≤ high

def SetItem.hasCase (manner : Manner) : SetItem → Bool
  | .code n => manner.isCased n
  | .range low high =>
    manner.isCased low || manner.isCased high ||
      (if manner.ascii then (low ≤ 65 && 65 ≤ high) || (low ≤ 97 && 97 ≤ high)
        else casedBounds.any fun bound => low < bound && bound ≤ high)
  | .category _ _ => false

/-- Membership of a code point, with case. -/
def SetItem.holds (ascii : Bool) (n : Nat) : SetItem → Bool
  | .code m => m == n
  | .range low high => low ≤ n && n ≤ high
  | .category kind negated => kind.holds ascii n != negated

/-- Membership of a lowercase code point, whatever the case of the members. -/
def SetItem.holdsLower (manner : Manner) (n : Nat) : SetItem → Bool
  | .code m => (manner.variants (manner.lower m)).contains n
  | .range low high => (manner.variants n).any fun lower => manner.rangeHasLower low high lower
  | .category kind negated => kind.holds manner.ascii n != negated

def inSet (manner : Manner) (items : List SetItem) (n : Nat) : Bool :=
  if manner.ignoreCase && items.any (·.hasCase manner) then
    items.any (·.holdsLower manner (manner.lower n))
  else items.any (·.holds manner.ascii n)

/-! ## Anchors -/

def isWordAt (ascii : Bool) (text : Subject) (index : Nat) : Bool :=
  text[index]?.any (Category.word.holds ascii)

def Anchor.holds (text : Subject) (index : Nat) : Anchor → Bool
  | .lineStart multiline => index = 0 || (multiline && text[index - 1]? = some 10)
  | .lineEnd multiline =>
    index = text.size || (text[index]? = some 10 && (multiline || index + 1 = text.size))
  | .textStart => index = 0
  | .textEnd => index = text.size
  | .wordEdge negated ascii =>
    let before := index ≠ 0 && isWordAt ascii text (index - 1)
    let after := isWordAt ascii text index
    text.size ≠ 0 && (before != after) != negated

/-! ## Matchers -/

/-- One character that satisfies a test. -/
def one (text : Subject) (test : Nat → Bool) : Matcher := fun place next =>
  if text[place.index]?.any test then next { place with index := place.index + 1 } else none

/-- More of a repetition of which `done` have been matched; `last` is where the previous optional
one started. -/
def greedyLoop (body : Matcher) (least : Nat) (most : Option Nat) :
    Nat → Nat → Option Nat → Matcher
  | 0, _, _ => fun _ _ => none
  | fuel + 1, done, last => fun place next =>
    if done < least then
      body place fun place => greedyLoop body least most fuel (done + 1) last place next
    else if most.all (done < ·) ∧ last ≠ some place.index then
      (body place fun after =>
        greedyLoop body least most fuel (done + 1) (some place.index) after next).orElse
          fun _ => next place
    else next place

def lazyLoop (body : Matcher) (least : Nat) (most : Option Nat) :
    Nat → Nat → Option Nat → Matcher
  | 0, _, _ => fun _ _ => none
  | fuel + 1, done, last => fun place next =>
    if done < least then
      body place fun place => lazyLoop body least most fuel (done + 1) last place next
    else
      (next place).orElse fun _ =>
        if most.all (done < ·) ∧ last ≠ some place.index then
          body place fun after =>
            lazyLoop body least most fuel (done + 1) (some place.index) after next
        else none

/-- Where a repetition ends that keeps what it has. -/
def possessiveLoop (body : Matcher) (least : Nat) (most : Option Nat) :
    Nat → Nat → Option Nat → Continuation
  | 0, _, _ => fun _ => none
  | fuel + 1, done, last => fun place =>
    if done < least then
      match body place some with
      | some place => possessiveLoop body least most fuel (done + 1) last place
      | none => none
    else if most.all (done < ·) ∧ last ≠ some place.index then
      match body place some with
      | some after => possessiveLoop body least most fuel (done + 1) (some place.index) after
      | none => some place
    else some place

/-- The stretch that a group matched last. -/
def captured? (text : Subject) (index : Nat) (place : Place) : Option (List Nat) :=
  (place.groups.lookup index).map fun (start, stop) => (text.extract start stop).toList

/-- The characters of a list, one after the other. -/
def literally (manner : Manner) (text : Subject) : List Nat → Matcher
  | [] => fun place next => next place
  | code :: codes => fun place next =>
    one text (fun n => if manner.ignoreCase then manner.lower n = manner.lower code else n = code)
      place fun place => literally manner text codes place next

/-- What a pattern matches. -/
def matcher (text : Subject) : Pattern → Matcher
  | .empty => fun place next => next place
  | .literal manner code => one text (manner.sameCode code)
  | .any withBreaks => one text fun n => withBreaks || n ≠ 10
  | .oneOf manner negated items => one text fun n => inSet manner items n != negated
  | .anchor kind => fun place next =>
    if kind.holds text place.index then next place else none
  | .andThen p q => fun place next => matcher text p place fun place => matcher text q place next
  | .orElse p q => fun place next => 
    (matcher text p place next).orElse fun _ => matcher text q place next
  | .repeated greed least most body => fun place next =>
    let fuel := least + text.size + 3
    let body := matcher text body
    match greed with
    | .greedy => greedyLoop body least most fuel 0 none place next
    | .lazy => lazyLoop body least most fuel 0 none place next
    | .possessive => (possessiveLoop body least most fuel 0 none place).bind next
  | .group index body => fun place next =>
    matcher text body place fun after =>
      next { after with groups := (index, place.index, after.index) :: after.groups }
  | .atomic body => fun place next => (matcher text body place some).bind next
  | .backref manner index => fun place next =>
    match captured? text index place with
    | some codes => literally manner text codes place next
    | none => none
  | .ahead negated body => fun place next =>
    match matcher text body place some, negated with
    | some after, false => next { after with index := place.index }
    | none, true => next place
    | _, _ => none
  | .behind negated width body => fun place next =>
    let found := if place.index < width then none
      else matcher text body { place with index := place.index - width } some
    match found, negated with
    | some after, false => next { after with index := place.index }
    | none, true => next place
    | _, _ => none
  | .ifGroup index yes no => fun place next =>
    if (place.groups.lookup index).isSome then matcher text yes place next
    else matcher text no place next

/-- Whether the pattern matches the whole of a text. -/
def matchesAll (pattern : Pattern) (s : String) : Bool :=
  let text : Subject := (s.toList.map Char.toNat).toArray
  (matcher text pattern ⟨0, []⟩ fun place =>
    if place.index = text.size then some place else none).isSome

end NodeGraph.Pattern
