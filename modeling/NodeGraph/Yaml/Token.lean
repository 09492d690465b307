/-!
# Tokens of a YAML document

A document is read as a list of tokens. Indentation is made explicit: a block that opens at some
column starts with `blockSequenceStart` or `blockMappingStart` and ends with `blockEnd`. The last
token is always `stop`; it carries the fault that stopped the reading, if there was one.
-/

namespace NodeGraph.Yaml

/-- Why a text could not be read as a value. -/
inductive Fault where
  /-- The text is no document, or a value does not have the shape its tag asks for. -/
  | malformed
  /-- A scalar is not a number or date, or an escape is not a character. -/
  | badScalar
  /-- A scalar tagged as a truth value is none of the known words. -/
  | unknownWord
  /-- A scalar tagged as a number has no characters left. -/
  | emptyNumber
  /-- A scalar tagged as a timestamp does not look like one. -/
  | notTimestamp
  /-- A sexagesimal number is too large. -/
  | tooLarge
  /-- A timestamp is given as a mapping. -/
  | notText
  deriving DecidableEq, Inhabited

inductive Token where
  | version (major : Nat)
  | tagDirective (handle stem : String)
  | otherDirective
  | documentStart
  | documentEnd
  | blockSequenceStart
  | blockMappingStart
  | blockEnd
  | flowSequenceStart
  | flowSequenceEnd
  | flowMappingStart
  | flowMappingEnd
  | blockEntry
  | flowEntry
  | key
  | value
  | alias (name : String)
  | anchor (name : String)
  | tag (handle : Option String) (suffix : String)
  | scalar (text : String) (plain : Bool)
  | stop (fault : Option Fault)
  deriving DecidableEq, Inhabited

end NodeGraph.Yaml
