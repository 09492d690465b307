/-!
# The words of a command line

A word that starts with a hyphen is an option, all others are arguments, and after a word of two
hyphens every word is an argument. An option is spelled with two hyphens and has a value: behind an
equals sign, or else the next word, whatever that looks like. Only `--help` has none.
-/

namespace NodeGraph.CommandLine

/-- What was found in the words: options with their values, arguments, and whether help is
wanted. -/
structure Words where
  options : List (String × String)
  arguments : List String
  help : Bool
  deriving DecidableEq, Inhabited

namespace Words

def none : Words := ⟨[], [], false⟩

def withOption (name value : String) (w : Words) : Words :=
  { w with options := (name, value) :: w.options }

def withArgument (word : String) (w : Words) : Words :=
  { w with arguments := word :: w.arguments }

/-- The last value of an option. -/
def value? (w : Words) (name : String) : Option String := w.options.reverse.lookup name

/-- All values of an option, in order. -/
def values (w : Words) (name : String) : List String :=
  w.options.filterMap fun (other, value) => if other = name then some value else Option.none

end Words

/-- What is in front of the first character `c` and what is behind it. -/
def cutAt (c : Char) (cs : List Char) : List Char × Option (List Char) :=
  match cs.dropWhile (· ≠ c) with
  | [] => (cs, none)
  | _ :: rest => (cs.takeWhile (· ≠ c), some rest)

/-- One word by its form. -/
inductive Word where
  | argument
  | stop
  | option (name : String) (value : Option String)
  /-- An option with one hyphen; there are none. -/
  | short
  deriving DecidableEq

def Word.of (s : String) : Word :=
  match s.toList with
  | ['-', '-'] => .stop
  | '-' :: '-' :: cs =>
    let (name, value) := cutAt '=' cs
    .option (String.ofList name) (value.map String.ofList)
  | '-' :: _ :: _ => .short
  | _ => .argument

/-- Reads words where the options `names` are known. If `mixed`, options may follow arguments;
else all words from the first argument on are arguments. Nothing if a word is no known option or
a value is missing. -/
def readWords (names : List String) (mixed : Bool) : List String → Option Words
  | [] => some .none
  | word :: rest =>
    match Word.of word with
    | .argument =>
      if mixed then (readWords names mixed rest).map (.withArgument word)
      else some { Words.none with arguments := word :: rest }
    | .stop => some { Words.none with arguments := rest }
    | .short => none
    | .option "help" value =>
      if value.isSome then none
      else (readWords names mixed rest).map fun w => { w with help := true }
    | .option name value =>
      if !names.contains name then none
      else
        match value, rest with
        | some v, rest => (readWords names mixed rest).map (.withOption name v)
        | none, v :: rest => (readWords names mixed rest).map (.withOption name v)
        | none, [] => none

end NodeGraph.CommandLine
