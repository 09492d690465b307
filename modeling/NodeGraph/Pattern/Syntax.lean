/-!
# Patterns

The syntax of the patterns that texts are checked against: literals and sets of characters,
anchors, sequences, alternatives, repetition in three manners, groups and references to them,
conditions on groups, and assertions about what comes before or after.
-/

namespace NodeGraph

/-- Why a text is no pattern. -/
inductive PatternFault where
  | malformed
  | incompatibleFlags
  | repeatTooLarge
  deriving DecidableEq, Inhabited

namespace Pattern

/-- How characters are compared: ignoring case or not, and over ASCII or over all scripts. -/
structure Manner where
  ignoreCase : Bool
  ascii : Bool
  deriving DecidableEq, Inhabited

inductive Category where
  | digit
  | space
  | word
  deriving DecidableEq, Inhabited

/-- A member of a set of characters; characters are given by code point. -/
inductive SetItem where
  | code (n : Nat)
  | range (low high : Nat)
  | category (kind : Category) (negated : Bool)
  deriving DecidableEq, Inhabited

inductive Anchor where
  /-- The start of the text, or of a line. -/
  | lineStart (multiline : Bool)
  /-- The end of the text or before a final line break; or the end of a line. -/
  | lineEnd (multiline : Bool)
  | textStart
  | textEnd
  | wordEdge (negated ascii : Bool)
  deriving DecidableEq, Inhabited

/-- As many as possible, as few as possible, or as many as possible without giving any back. -/
inductive Greed where
  | greedy
  | lazy
  | possessive
  deriving DecidableEq, Inhabited

end Pattern

open Pattern in
inductive Pattern where
  | empty
  | literal (manner : Manner) (code : Nat)
  | any (withBreaks : Bool)
  | oneOf (manner : Manner) (negated : Bool) (items : List SetItem)
  | anchor (kind : Anchor)
  | andThen (first second : Pattern)
  | orElse (first second : Pattern)
  | repeated (greed : Greed) (least : Nat) (most : Option Nat) (body : Pattern)
  | group (index : Nat) (body : Pattern)
  | atomic (body : Pattern)
  | backref (manner : Manner) (index : Nat)
  | ahead (negated : Bool) (body : Pattern)
  | behind (negated : Bool) (width : Nat) (body : Pattern)
  | ifGroup (index : Nat) (yes no : Pattern)
  deriving DecidableEq, Inhabited

namespace Pattern

/-- The number of repetitions that stands for "any number" in the width of a pattern. -/
def widthLimit : Nat := 4294967295

/-- The least and greatest number of characters that a pattern takes up, given those of the
groups. -/
def width (groups : Nat → Nat × Nat) : Pattern → Nat × Nat
  | .empty | .anchor _ | .ahead _ _ | .behind _ _ _ => (0, 0)
  | .literal _ _ | .any _ | .oneOf _ _ _ => (1, 1)
  | .andThen p q =>
    let (a, b) := p.width groups
    let (c, d) := q.width groups
    (min (a + c) (widthLimit - 1), min (b + d) widthLimit)
  | .orElse p q =>
    let (a, b) := p.width groups
    let (c, d) := q.width groups
    (min a c, max b d)
  | .repeated _ least most p =>
    let (a, b) := p.width groups
    (min (a * least) (widthLimit - 1), min (b * most.getD widthLimit) widthLimit)
  | .group _ p => p.width groups
  | .atomic p => p.width groups
  | .backref _ index => groups index
  | .ifGroup _ p q =>
    let (a, b) := p.width groups
    let (c, d) := q.width groups
    (min a c, max b d)

/-- The patterns one after the other. -/
def sequence : List Pattern → Pattern
  | [] => .empty
  | [p] => p
  | p :: ps => .andThen p (sequence ps)

/-- The first of the patterns that fits. -/
def choice : List Pattern → Pattern
  | [] => .empty
  | [p] => p
  | p :: ps => .orElse p (choice ps)

end Pattern

end NodeGraph
