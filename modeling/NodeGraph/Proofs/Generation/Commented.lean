import NodeGraph.Proofs.Generation.Naming
import NodeGraph.Proofs.Validation.Unbroken

/-!
# Reports as comments

The heading of a report and of each of its entries, and each of its messages, start with the mark of
a comment, and the marks are all there is: what a message quotes is written as it is. So a report is
a comment as far as its messages stay on their lines, or have the mark on their further lines
themselves.
-/

namespace NodeGraph

open LineBreaks (free_append free_of_isPrintableAscii)

variable {b : LineBreaks} {g : Graph} {r : Registry} {s : Settings} {errors : List NodeErrors}

/-! ## The report line by line -/

/-- Behind the mark and what else stands at the beginning of its line. -/
theorem commented_behind_mark {start text : String} (hmark : b.Free s.commentPrefix)
    (hstart : b.Free start) :
    b.Commented s.commentPrefix (s.commentPrefix ++ start ++ text) ↔
      b.StaysCommented s.commentPrefix text := by
  refine LineBreaks.commented_append_iff (free_append.mpr ⟨hmark, hstart⟩) ?_
  rw [String.toList_append]
  exact List.prefix_append _ _

/-- A report is a comment just if this is so for each id and each message that it quotes. -/
theorem commented_errorReport_iff (hmark : b.Free s.commentPrefix)
    (hheader : b.Free s.errorHeader) (errors : List NodeErrors) :
    b.Commented s.commentPrefix (errorReport errors s) ↔ ∀ entry ∈ errors,
      b.StaysCommented s.commentPrefix (entry.node ++ ":") ∧
        ∀ m ∈ entry.messages, b.StaysCommented s.commentPrefix m := by
  have hspace : b.Free " " := free_of_isPrintableAscii rfl
  have hnode : b.Free " Node " := free_of_isPrintableAscii rfl
  have hdash : b.Free " - " := free_of_isPrintableAscii rfl
  have hblock (entry : NodeErrors) (rest : String) :
      s.commentPrefix ++ " Node " ++ entry.node ++ ":\n" ++ rest =
        s.commentPrefix ++ " Node " ++ (entry.node ++ ":") ++ "\n" ++ rest := by
    simp [← String.toList_inj]
  rw [errorReport, LineBreaks.commented_append_newlines, Settings.reportStart,
    commented_behind_mark hmark hspace, and_iff_right hheader.staysCommented,
    LineBreaks.commented_intercalate_iff fun _ _ => LineBreaks.commented_append_newlines]
  simp only [List.forall_mem_map, hblock, LineBreaks.commented_append_newline,
    commented_behind_mark hmark hnode,
    LineBreaks.commented_intercalate_iff fun _ _ => LineBreaks.commented_append_newline,
    commented_behind_mark hmark hdash]

/-- A graph that is not valid gets a report. It is a comment exactly if the ids and messages in it
leave it one, and this is so if all texts that messages can quote are on one line. -/
theorem generate_report_commented (hmark : b.Free s.commentPrefix)
    (hheader : b.Free s.errorHeader) (hvalidate : validate g r = .ok errors) (hne : errors ≠ []) :
    generate g r s = .ok (errorReport errors s) ∧
      (b.Commented s.commentPrefix (errorReport errors s) ↔ ∀ entry ∈ errors,
        b.StaysCommented s.commentPrefix (entry.node ++ ":") ∧
          ∀ m ∈ entry.messages, b.StaysCommented s.commentPrefix m) ∧
      (g.Unbroken r b → b.Commented s.commentPrefix (errorReport errors s)) := by
  have hiff := commented_errorReport_iff hmark hheader errors
  refine ⟨generate_of_messages hvalidate hne, hiff, fun hfree => hiff.mpr fun entry hentry => ?_⟩
  obtain ⟨hnode, hmessages⟩ := free_of_validate hfree hvalidate hentry
  have hcolon : b.Free ":" := free_of_isPrintableAscii rfl
  exact ⟨(free_append.mpr ⟨hnode, hcolon⟩).staysCommented,
    fun m hm => (hmessages m hm).staysCommented⟩

/-! ## A variable whose name is no identifier -/

/-- Variables whose names are checked. -/
def checkedType : NodeDefinition := { variableType with hook := some Hook.identifier }

def checkedVariables : Registry := Registry.empty.add checkedType

/-- A variable with a name. -/
def variableNamed (name : String) : Node := ⟨"v", "Variable", .origin, [(.text "name", .text name)]⟩

def named (name : String) : Graph := ⟨[variableNamed name], []⟩

/-- What validation says of it. -/
def misnamed (name : String) : List NodeErrors :=
  [⟨"v", ["\"" ++ name ++ "\" is not a valid identifier"]⟩]

theorem unbroken_checkedType : checkedType.Unbroken b where
  names := by
    intro p hp
    obtain rfl := List.mem_singleton.mp hp
    exact free_of_isPrintableAscii (by decide)
  specs := by
    intro p hp
    obtain rfl := List.mem_singleton.mp hp
    exact ⟨fun option hoption => (nomatch hoption), fun rules hrules => (nomatch hrules)⟩
  inputs pin hpin := nomatch hpin
  outputs pin hpin := nomatch hpin

theorem free_field_variableNamed {name : String} (h : b.Free name) (field : String) :
    b.Free ((variableNamed name).field field).display := by
  by_cases hfield : field = "name"
  · have hname : (variableNamed name).field field = .text name := by
      simp [hfield, variableNamed, Node.field, Value.field?, Value.lookup, Value.eqv]
    rw [hname]
    exact h
  · have hnull : (variableNamed name).field field = .null := by
      simp [hfield, variableNamed, Node.field, Value.field?, Value.lookup, Value.eqv]
    rw [hnull]
    exact free_of_isPrintableAscii (by decide)

theorem unbroken_named {name : String} (h : b.Free name) :
    (named name).Unbroken checkedVariables b where
  vertices v hv := by
    obtain rfl : v = "v" := by simpa [named, variableNamed, Graph.mem_vertices, Graph.ids] using hv
    exact free_of_isPrintableAscii (by decide)
  types n hn := by
    obtain rfl := List.mem_singleton.mp hn
    have htype : isPrintableAscii "Variable" = true := by decide
    exact free_of_isPrintableAscii htype
  edges e he := nomatch he
  definitions n hn d hd := by
    obtain rfl := List.mem_singleton.mp hn
    obtain rfl : checkedType = d := Option.some.inj hd
    exact unbroken_checkedType
  hooks n hn d hd hook hhook m hm := by
    obtain rfl := List.mem_singleton.mp hn
    obtain rfl : checkedType = d := Option.some.inj hd
    obtain rfl : Hook.identifier = hook := Option.some.inj hhook
    exact free_of_mem_builtin (.inl rfl) (fun field _ => free_field_variableNamed h field) hm

/-- A name that is no identifier, but on one line, leaves the report a comment. -/
theorem named_digit_commented :
    validate (named "1x") checkedVariables = .ok (misnamed "1x") ∧
      LineBreaks.separators.Commented "//" (errorReport (misnamed "1x") .standard) := by
  have hvalidate : validate (named "1x") checkedVariables = .ok (misnamed "1x") := by
    decide +kernel
  have hmark : LineBreaks.separators.Free Settings.standard.commentPrefix := by decide
  have hheader : LineBreaks.separators.Free Settings.standard.errorHeader := by decide
  have hname : LineBreaks.separators.Free "1x" := by decide
  exact ⟨hvalidate, (generate_report_commented hmark hheader hvalidate (by decide)).2.2
    (unbroken_named hname)⟩

/-- The part of a name behind a line feed is not in the comment. -/
theorem named_twoLines_uncommented :
    validate (named "x\nlet y = 1;") checkedVariables = .ok (misnamed "x\nlet y = 1;") ∧
      generate (named "x\nlet y = 1;") checkedVariables .standard =
        .ok (errorReport (misnamed "x\nlet y = 1;") .standard) ∧
      LineBreaks.feeds.Free Settings.standard.commentPrefix ∧
      LineBreaks.feeds.Free Settings.standard.errorHeader ∧
      ¬ LineBreaks.feeds.Commented Settings.standard.commentPrefix
        (errorReport (misnamed "x\nlet y = 1;") .standard) := by
  have hvalidate : validate (named "x\nlet y = 1;") checkedVariables =
      .ok (misnamed "x\nlet y = 1;") := by decide +kernel
  refine ⟨hvalidate, generate_of_messages hvalidate (by decide), by decide, by decide, ?_⟩
  intro hcommented
  have hline := hcommented "let y = 1;\" is not a valid identifier".toList (by decide +kernel)
    (by decide)
  exact absurd hline (by decide)

end NodeGraph
