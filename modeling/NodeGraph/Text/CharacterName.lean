import NodeGraph.Text.CharacterName.Letters
import NodeGraph.Text.CharacterName.Pictographs
import NodeGraph.Text.CharacterName.Symbols

/-!
# Characters by name

`CharacterName.code?` finds the code point with a Unicode name, in any case. The table holds the
scripts and symbols in common use and the aliases of the control characters; a name that it does not
hold counts as no name.
-/

namespace NodeGraph.CharacterName

/-- Names that characters have besides their own, or instead of one. -/
def aliases : List (Nat × List String) := [
  (0, ["NULL", "NUL"]), (1, ["START OF HEADING", "SOH"]), (2, ["START OF TEXT", "STX"]),
  (3, ["END OF TEXT", "ETX"]), (4, ["END OF TRANSMISSION", "EOT"]), (5, ["ENQUIRY", "ENQ"]),
  (6, ["ACKNOWLEDGE", "ACK"]), (7, ["ALERT", "BEL"]), (8, ["BACKSPACE", "BS"]),
  (9, ["CHARACTER TABULATION", "HORIZONTAL TABULATION", "HT", "TAB"]),
  (10, ["LINE FEED", "NEW LINE", "END OF LINE", "LF", "NL", "EOL"]),
  (11, ["LINE TABULATION", "VERTICAL TABULATION", "VT"]), (12, ["FORM FEED", "FF"]),
  (13, ["CARRIAGE RETURN", "CR"]), (14, ["SHIFT OUT", "LOCKING-SHIFT ONE", "SO"]),
  (15, ["SHIFT IN", "LOCKING-SHIFT ZERO", "SI"]), (16, ["DATA LINK ESCAPE", "DLE"]),
  (17, ["DEVICE CONTROL ONE", "DC1"]), (18, ["DEVICE CONTROL TWO", "DC2"]),
  (19, ["DEVICE CONTROL THREE", "DC3"]), (20, ["DEVICE CONTROL FOUR", "DC4"]),
  (21, ["NEGATIVE ACKNOWLEDGE", "NAK"]), (22, ["SYNCHRONOUS IDLE", "SYN"]),
  (23, ["END OF TRANSMISSION BLOCK", "ETB"]), (24, ["CANCEL", "CAN"]),
  (25, ["END OF MEDIUM", "EOM"]), (26, ["SUBSTITUTE", "SUB"]), (27, ["ESCAPE", "ESC"]),
  (28, ["INFORMATION SEPARATOR FOUR", "FILE SEPARATOR", "FS"]),
  (29, ["INFORMATION SEPARATOR THREE", "GROUP SEPARATOR", "GS"]),
  (30, ["INFORMATION SEPARATOR TWO", "RECORD SEPARATOR", "RS"]),
  (31, ["INFORMATION SEPARATOR ONE", "UNIT SEPARATOR", "US"]), (32, ["SP"]),
  (127, ["DELETE", "DEL"]), (128, ["PADDING CHARACTER", "PAD"]),
  (129, ["HIGH OCTET PRESET", "HOP"]), (130, ["BREAK PERMITTED HERE", "BPH"]),
  (131, ["NO BREAK HERE", "NBH"]), (132, ["INDEX", "IND"]), (133, ["NEXT LINE", "NEL"]),
  (160, ["NBSP"]), (173, ["SHY"]), (847, ["CGJ"]), (8203, ["ZWSP"]), (8204, ["ZWNJ"]),
  (8205, ["ZWJ"]), (8206, ["LRM"]), (8207, ["RLM"]), (8239, ["NNBSP"]), (8288, ["WJ"]),
  (65279, ["BYTE ORDER MARK", "BOM", "ZWNBSP"])]

/-- The words of a name, from those of the name before it. -/
def wordsAfter (last : List (List Char)) : List Char → List (List Char)
  | [] => last
  | count :: rest =>
    last.take (count.toNat - '0'.toNat) ++ (if rest.isEmpty then [] else rest.splitOn ' ')

/-- How many entries stand in front of the one for a name. -/
def indexIn? (name : List (List Char)) (last : List (List Char)) : List (List Char) → Option Nat
  | [] => none
  | entry :: rest =>
    let words := wordsAfter last entry
    if words = name then some 0 else (indexIn? name words rest).map (· + 1)

/-- The entries of a run. -/
def entriesOf (text : String) : List (List Char) :=
  text.toList.splitOnP fun c => c = ';' || c = '\n'

/-- The code point with a name. -/
def code? (name : String) : Option Nat :=
  let name := name.map Char.toUpper
  match aliases.find? fun (_, names) => names.contains name with
  | some (code, _) => some code
  | none =>
    let words := name.toList.splitOn ' '
    (letterRuns ++ symbolRuns ++ pictographRuns).findSome? fun (first, text) =>
      (indexIn? words [] (entriesOf text)).map (first + ·)

end NodeGraph.CharacterName
