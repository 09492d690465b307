import NodeGraph.Settings
import NodeGraph.Table

/-!
# Environment files

A file of variables, one on a line: a name, an equals sign and a value that may be quoted. A line
may start with `export`, and a number sign behind a blank starts a comment. A value can refer to
variables by `$` with the name between braces.
-/

namespace NodeGraph.EnvironmentFile

/-- White space that does not end a line. -/
def isLineSpace (c : Char) : Bool := isBlank c && c ≠ '\n' && c ≠ '\r'

def isLineEnd (c : Char) : Bool := c = '\n' || c = '\r'

/-- The rest behind `export` and the white space after it, if they come next. -/
def dropExport (cs : List Char) : List Char :=
  if "export".toList.isPrefixOf cs then
    let rest := cs.drop 6
    if rest.head?.any isLineSpace then rest.dropWhile isLineSpace else cs
  else cs

/-- The rest of a line, its end included. -/
def dropLine (cs : List Char) : List Char :=
  match cs.dropWhile (!isLineEnd ·) with
  | '\r' :: '\n' :: rest => '\n' :: rest
  | _ :: rest => rest
  | [] => []

/-- The rest behind the end of a line, with white space and a comment before it; `none` if
something else stands there. -/
def lineEnd? (cs : List Char) : Option (List Char) :=
  let after := cs.dropWhile isLineSpace
  let after := if after.head? = some '#' then after.dropWhile (!isLineEnd ·) else after
  match after with
  | [] => some []
  | '\r' :: '\n' :: rest => some rest
  | c :: rest => if isLineEnd c then some rest else none

/-- A text up to the closing mark, which a backslash makes an ordinary character. -/
def quoted? (mark : Char) : List Char → Option (List Char × List Char)
  | [] => none
  | '\\' :: c :: rest =>
    if c = mark then
      match quoted? mark rest with
      | some (text, after) => some ('\\' :: c :: text, after)
      | none => some (['\\'], rest)
    else (quoted? mark (c :: rest)).map fun (text, after) => ('\\' :: text, after)
  | c :: rest =>
    if c = mark then some ([], rest)
    else (quoted? mark rest).map fun (text, after) => (c :: text, after)

/-- What a backslash and a letter stand for between double quotation marks. -/
def escape? : Char → Option Char
  | '\\' => some '\\'
  | '\x27' => some '\x27'
  | '\x22' => some '\x22'
  | 'a' => some '\x07'
  | 'b' => some '\x08'
  | 'f' => some '\x0C'
  | 'n' => some '\n'
  | 'r' => some '\r'
  | 't' => some '\t'
  | 'v' => some '\x0B'
  | _ => none

/-- The text with its escapes replaced; between single marks only the mark and the backslash have
one. -/
def unescape (double : Bool) : List Char → List Char
  | '\\' :: c :: rest =>
    let known := if double then escape? c
      else if c = '\\' ∨ c = '\x27' then some c else none
    match known with
    | some d => d :: unescape double rest
    | none => '\\' :: unescape double (c :: rest)
  | c :: rest => c :: unescape double rest
  | [] => []

/-- The text before a comment, which starts with white space and a number sign. -/
def beforeComment : List Char → List Char
  | [] => []
  | c :: rest =>
    if isBlank c ∧ (rest.dropWhile isBlank).head? = some '#' then [] else c :: beforeComment rest

/-- A value that is not quoted reaches to the end of the line. -/
def bareValue (cs : List Char) : List Char × List Char :=
  let line := cs.takeWhile (!isLineEnd ·)
  (((beforeComment line).reverse.dropWhile isBlank).reverse, cs.dropWhile (!isLineEnd ·))

def value? (cs : List Char) : Option (List Char × List Char) :=
  match cs with
  | '\x27' :: rest => (quoted? '\x27' rest).map fun (text, after) => (unescape false text, after)
  | '\x22' :: rest => (quoted? '\x22' rest).map fun (text, after) => (unescape true text, after)
  | _ => some (bareValue cs)

/-- A name: in single quotation marks, or up to an equals sign, a number sign or white space. -/
def name? (cs : List Char) : Option (List Char × List Char) :=
  match cs with
  | '\x27' :: rest =>
    let name := rest.takeWhile (· ≠ '\x27')
    match rest.dropWhile (· ≠ '\x27') with
    | _ :: after => if name.isEmpty then none else some (name, after)
    | [] => none
  | _ =>
    let isNameChar (c : Char) : Bool := c ≠ '=' && c ≠ '#' && !isBlank c
    let name := cs.takeWhile isNameChar
    if name.isEmpty then none else some (name, cs.dropWhile isNameChar)

/-- One binding and the rest. A name without an equals sign has no value; a line that is none is
passed over. -/
def binding (cs : List Char) : Option (String × Option String) × List Char :=
  let start := dropExport cs
  if start.head? = some '#' then (none, dropLine start)
  else
    match name? start with
    | none => (none, dropLine start)
    | some (name, after) =>
      let name := String.ofList name
      let after := after.dropWhile isLineSpace
      if after.head? = some '=' then
        let text := after.tail.dropWhile isLineSpace
        match value? text with
        | none => (none, dropLine text)
        | some (value, after) =>
          match lineEnd? after with
          | some rest => (some (name, some (String.ofList value)), rest)
          | none => (none, dropLine after)
      else
        match lineEnd? after with
        | some rest => (some (name, none), rest)
        | none => (none, dropLine after)

def bindings : Nat → List Char → List (String × Option String)
  | 0, _ => []
  | fuel + 1, cs =>
    match cs.dropWhile isBlank with
    | [] => []
    | start =>
      let (found, rest) := binding start
      found.toList ++ bindings fuel rest

/-! ## References -/

/-- A reference at the front: the name, and the default behind `:-`. -/
def reference? (cs : List Char) : Option (String × String × List Char) :=
  match cs with
  | '$' :: '\x7b' :: rest =>
    let isNameChar (c : Char) : Bool := c ≠ '\x7d' && c ≠ ':'
    let name := String.ofList (rest.takeWhile isNameChar)
    match rest.dropWhile isNameChar with
    | '\x7d' :: after => some (name, "", after)
    | ':' :: '-' :: more =>
      match more.dropWhile (· ≠ '\x7d') with
      | _ :: after => some (name, String.ofList (more.takeWhile (· ≠ '\x7d')), after)
      | [] => none
    | _ => none
  | _ => none

/-- The text with its references replaced by what `find` knows. -/
def expand (find : String → Option String) : Nat → List Char → List Char
  | 0, _ => []
  | _, [] => []
  | fuel + 1, c :: cs =>
    match reference? (c :: cs) with
    | some (name, missing, rest) => ((find name).getD missing).toList ++ expand find fuel rest
    | none => c :: expand find fuel cs

/-- The bindings with their references replaced: by bindings before them, else by the environment.
A name without a value stands for the empty text. -/
def resolve (environment : List (String × String)) :
    List (String × Option String) → List (String × Option String) → List (String × Option String)
  | _, [] => []
  | earlier, (name, value) :: rest =>
    let find (key : String) : Option String :=
      match earlier.lookup key with
      | some known => some (known.getD "")
      | none => environment.lookup key
    let value := value.map fun text =>
      String.ofList (expand find (text.length + 1) text.toList)
    (name, value) :: resolve environment ((name, value) :: earlier) rest

/-- The variables of a file, some bound to nothing; of bindings with the same name the last one
counts. -/
def read (environment : List (String × String)) (text : String) : List (String × Option String) :=
  (Table.ofPairs (resolve environment [] (bindings (text.length + 1) text.toList))).entries

end NodeGraph.EnvironmentFile
