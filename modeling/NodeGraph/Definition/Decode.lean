import NodeGraph.Definition
import NodeGraph.Schema

/-!
# Reading definitions

The schema of a node definition: which fields it has, under which names, and what they hold.
-/

namespace NodeGraph

open Schema Issue

/-- The text of a pattern that can be used. -/
def TextPattern.ofText (source : String) : Checked TextPattern :=
  match h : Pattern.read source with
  | .ok pattern => .good ⟨source, pattern, h⟩
  | .error .malformed => .issue .invalidPattern
  | .error .incompatibleFlags => .issue .incompatibleFlags
  | .error .repeatTooLarge => .overflow

def TextPattern.decode (v : Value) : Checked TextPattern :=
  (Schema.text v).bind TextPattern.ofText

def Constraints.decode (v : Value) : Checked Constraints :=
  (record v).bind fun pairs =>
    (Checked.good Constraints.mk).apply (defaulted ["min"] none (optional float) pairs)
    |>.apply (defaulted ["max"] none (optional float) pairs)
    |>.apply (defaulted ["minLength", "min_length"] none (optional int) pairs)
    |>.apply (defaulted ["maxLength", "max_length"] none (optional int) pairs)
    |>.apply (defaulted ["pattern"] none (optional TextPattern.decode) pairs)

/-- The kind a text names: in any case, and by one of its other names. -/
def FieldKind.ofText? (s : String) : Option FieldKind :=
  let word := asciiLowerText s
  (FieldKind.aliases.lookup word).or (FieldKind.ofName? word)

def FieldKind.decode : Value → Checked FieldKind
  | .text s =>
    match FieldKind.ofText? s with
    | some kind => .good kind
    | none => .issue .unknownChoice
  | .bytes bs =>
    match (utf8? bs).bind FieldKind.ofName? with
    | some kind => .good kind
    | none => .issue .unknownChoice
  | _ => .issue .unknownChoice

def FieldSpec.decode (v : Value) : Checked FieldSpec :=
  (record v).bind fun pairs =>
    (Checked.good FieldSpec.mk).apply (Schema.required ["type", "kind"] FieldKind.decode pairs)
    |>.apply (Schema.required ["label"] text pairs)
    |>.apply (defaulted ["description"] none (optional text) pairs)
    |>.apply (defaulted ["options"] [] (list text) pairs)
    |>.apply (defaulted ["default"] .null any pairs)
    |>.apply (defaulted ["required"] false bool pairs)
    |>.apply (defaulted ["validation"] none (optional Constraints.decode) pairs)

def Pin.decode (v : Value) : Checked Pin :=
  (record v).bind fun pairs =>
    (Checked.good Pin.mk).apply (Schema.required ["name"] text pairs)
    |>.apply (Schema.required ["type"] text pairs)
    |>.apply (defaulted ["description"] none (optional text) pairs)
    |>.apply (defaulted ["optional"] false bool pairs)

/-- The first name that comes a second time. -/
def firstRepeated (seen : List String) : List String → Option String
  | [] => none
  | name :: rest => if name ∈ seen then some name else firstRepeated (name :: seen) rest

theorem nodup_of_firstRepeated {seen names : List String} (h : firstRepeated seen names = none) :
    names.Nodup ∧ ∀ name ∈ names, name ∉ seen := by
  induction names generalizing seen with
  | nil => simp
  | cons name rest ih =>
    simp only [firstRepeated] at h
    split at h
    · cases h
    · rename_i notSeen
      obtain ⟨nodup, fresh⟩ := ih h
      refine ⟨List.nodup_cons.2 ⟨fun mem => fresh name mem (by simp), nodup⟩, ?_⟩
      intro other mem
      rcases List.mem_cons.1 mem with rfl | mem
      · exact notSeen
      · exact fun inSeen => fresh other mem (List.mem_cons_of_mem _ inSeen)

/-- Pins with distinct names on each side. -/
def PinSet.ofLists (inputs outputs : List Pin) : Checked PinSet :=
  match hi : firstRepeated [] (inputs.map (·.name)) with
  | some name => .issue (.duplicatePin "input" name)
  | none =>
    match ho : firstRepeated [] (outputs.map (·.name)) with
    | some name => .issue (.duplicatePin "output" name)
    | none => .good ⟨inputs, outputs, (nodup_of_firstRepeated hi).1, (nodup_of_firstRepeated ho).1⟩

/-- A list of pins; null stands for none. -/
def Pin.decodeList : Value → Checked (List Pin)
  | .null => .good []
  | v => list Pin.decode v

def PinSet.decode : Value → Checked PinSet
  | .null => .good .empty
  | v => (record v).bind fun pairs =>
    ((Checked.good Prod.mk).apply (defaulted ["inputs"] [] Pin.decodeList pairs)
    |>.apply (defaulted ["outputs"] [] Pin.decodeList pairs)).bind fun (inputs, outputs) =>
      PinSet.ofLists inputs outputs

/-- The fields of a definition by name; null stands for none. -/
def FieldSpec.decodeTable : Value → Checked (Table FieldSpec)
  | .null => .good .empty
  | v => (entries FieldSpec.decode v).map Table.ofPairs

/-- A definition, with the hook that it names resolved before. A hook that is a mere value is
none. -/
def NodeDefinition.decode (hook : Option Hook) (v : Value) : Checked NodeDefinition :=
  (record v).bind fun pairs =>
    (Checked.good NodeDefinition.mk).apply (Schema.required ["name"] text pairs)
    |>.apply (Schema.required ["category"] text pairs)
    |>.apply (Schema.required ["description"] text pairs)
    |>.apply (Schema.required ["fields"] FieldSpec.decodeTable pairs)
    |>.apply (Schema.required ["pins"] PinSet.decode pairs)
    |>.apply (Schema.required ["template"] text pairs)
    |>.apply (match hook with
      | some hook => .good (some hook)
      | none => defaulted ["validation"] none (optional fun _ => .issue .callableType) pairs)

end NodeGraph
