import NodeGraph.Proofs.Generation.Source
import NodeGraph.Proofs.Validation.Reports

/-!
# Telling reports from source

A report and a source both start with the mark of a comment and a header, and a report is told by
its header. Only its beginning is compared, whether or not the line ends there. So every report is
recognized, and source is taken for a report where the header of reports is the beginning of its
first lines, which the settings do not exclude.
-/

namespace NodeGraph

variable {g : Graph} {r : Registry} {s : Settings} {text : String} {errors : List NodeErrors}

/-- The heading of a source. -/
def Settings.sourceStart (s : Settings) : String := s.commentPrefix ++ " " ++ s.generatedHeader

/-- Neither header with the end of its line begins the other one, so that the headings of reports
and sources differ within both of them. -/
structure Settings.HeadersApart (s : Settings) : Prop where
  error : ¬ s.errorHeader.toList <+: s.generatedHeader.toList ++ ['\n']
  generated : ¬ s.generatedHeader.toList ++ ['\n'] <+: s.errorHeader.toList

/-! ## How the texts begin -/

theorem isErrorReport_iff : isErrorReport text s = true ↔ s.reportStart.toList <+: text.toList :=
  List.isPrefixOf_iff_prefix

theorem isErrorReport_errorReport (errors : List NodeErrors) (s : Settings) :
    isErrorReport (errorReport errors s) s = true := by
  rw [isErrorReport_iff, errorReport, String.append_assoc, String.toList_append]
  exact List.prefix_append _ _

/-- Source begins with its heading, a line of its own. -/
theorem exists_body (h : generateCode g r s = .ok text) :
    ∃ body, text = s.sourceStart ++ "\n" ++ body := by
  unfold generateCode at h
  split at h
  · cases h
  · obtain ⟨order, _, h⟩ := bind_eq_ok_iff.mp h
    obtain ⟨chunks, _, h⟩ := bind_eq_ok_iff.mp h
    rw [← Except.ok.inj h]
    cases chunks with
    | nil => exact ⟨"", by simp [Settings.sourceStart]⟩
    | cons chunk chunks =>
        refine ⟨"\n" ++ "\n".intercalate ((chunk :: chunks).map (· ++ "\n")), ?_⟩
        rw [List.map_cons, String.intercalate_cons_cons, Settings.sourceStart]
        simp only [String.append_assoc]

theorem exists_validate_of_generate (h : generate g r s = .ok text) :
    ∃ errors, validate g r = .ok errors := by
  obtain ⟨errors, hvalidate, _⟩ := bind_eq_ok_iff.mp h
  exact ⟨errors, hvalidate⟩

/-! ## When source is taken for a report -/

variable {body : String}

theorem isErrorReport_source_iff :
    isErrorReport (s.sourceStart ++ "\n" ++ body) s = true ↔
      s.errorHeader.toList <+: s.generatedHeader.toList ++ '\n' :: body.toList := by
  have hsource : (s.sourceStart ++ "\n" ++ body).toList = (s.commentPrefix ++ " ").toList ++
      (s.generatedHeader.toList ++ '\n' :: body.toList) := by
    simp [Settings.sourceStart]
  rw [isErrorReport_iff, hsource, Settings.reportStart, String.toList_append,
    List.prefix_append_right_inj]

theorem Settings.HeadersApart.isErrorReport_source (h : s.HeadersApart) :
    isErrorReport (s.sourceStart ++ "\n" ++ body) s = false := by
  rw [← Bool.not_eq_true, isErrorReport_source_iff]
  intro hbegins
  have hline : s.generatedHeader.toList ++ ['\n'] <+:
      s.generatedHeader.toList ++ '\n' :: body.toList := ⟨body.toList, by simp⟩
  rcases List.prefix_or_prefix_of_prefix hbegins hline with herror | hgenerated
  · exact h.error herror
  · exact h.generated hgenerated

/-- A header in one line does not reach beyond the first line. -/
theorem isErrorReport_source_iff_of_line (hline : '\n' ∉ s.errorHeader.toList) :
    isErrorReport (s.sourceStart ++ "\n" ++ body) s = true ↔
      s.errorHeader.toList <+: s.generatedHeader.toList := by
  rw [isErrorReport_source_iff]
  constructor
  · intro hbegins
    rcases List.prefix_or_prefix_of_prefix hbegins (List.prefix_append _ _) with hheader | hheader
    · exact hheader
    · obtain ⟨rest, hrest⟩ := hheader
      rw [← hrest, List.prefix_append_right_inj] at hbegins
      cases rest with
      | nil => exact ⟨[], by simpa using hrest.symm⟩
      | cons c rest =>
          obtain rfl : c = '\n' := (List.cons_prefix_cons.mp hbegins).1
          simp [← hrest] at hline
  · intro hbegins
    exact hbegins.trans (List.prefix_append _ _)

/-- Every report is recognized. A source is not, if the headers are apart; otherwise, it is taken
for a report exactly if its lines, from the header on, begin with the header of reports, which for a
header in one line means that it is a beginning of the other header. -/
theorem isErrorReport_exact (h : generate g r s = .ok text) :
    ∃ errors, validate g r = .ok errors ∧
      (errors ≠ [] → isErrorReport text s = true) ∧
      (errors = [] → ∃ body, text = s.sourceStart ++ "\n" ++ body ∧
        (isErrorReport text s = true ↔
          s.errorHeader.toList <+: s.generatedHeader.toList ++ '\n' :: body.toList)) ∧
      (s.HeadersApart → (isErrorReport text s = true ↔ errors ≠ [])) ∧
      ('\n' ∉ s.errorHeader.toList → (isErrorReport text s = true ↔
        errors ≠ [] ∨ s.errorHeader.toList <+: s.generatedHeader.toList)) := by
  obtain ⟨errors, hvalidate⟩ := exists_validate_of_generate h
  refine ⟨errors, hvalidate, ?_⟩
  by_cases hnone : errors = []
  · subst hnone
    rw [generate_of_no_messages hvalidate] at h
    obtain ⟨body, rfl⟩ := exists_body h
    refine ⟨fun hne => absurd rfl hne, fun _ => ⟨body, rfl, isErrorReport_source_iff⟩, ?_, ?_⟩
    · intro hapart
      simp [hapart.isErrorReport_source]
    · intro hline
      simp [isErrorReport_source_iff_of_line hline]
  · obtain rfl := Except.ok.inj (h.symm.trans (generate_of_messages hvalidate hnone))
    have hreport := isErrorReport_errorReport errors s
    exact ⟨fun _ => hreport, fun hempty => absurd hempty hnone, fun _ => by simp [hreport, hnone],
      fun _ => by simp [hreport, hnone]⟩

/-- The standard headers are apart. -/
theorem standard_headersApart : Settings.standard.HeadersApart where
  error := by decide
  generated := by decide

/-- With the standard headers, the report on a graph full of faults is recognized, and the source of
a graph without nodes is not. -/
theorem standard_recognized :
    (∃ text, generate tangled numberTypes .standard = .ok text ∧
      isErrorReport text .standard = true) ∧
      generate ⟨[], []⟩ .empty .standard = .ok "// Generated Rust Code\n" ∧
      isErrorReport "// Generated Rust Code\n" .standard = false := by
  have hvalidate : validate tangled numberTypes = .ok tangledReport := by decide +kernel
  have hreport := generate_of_messages (s := .standard) hvalidate (by decide)
  have hsource : generate ⟨[], []⟩ .empty .standard = .ok "// Generated Rust Code\n" := by
    decide +kernel
  refine ⟨⟨_, hreport, ?_⟩, hsource, ?_⟩
  · obtain ⟨errors, herrors, hfailed, _⟩ := isErrorReport_exact hreport
    obtain rfl := Except.ok.inj (hvalidate.symm.trans herrors)
    exact hfailed (by decide)
  · obtain ⟨errors, herrors, _, _, hiff, _⟩ := isErrorReport_exact hsource
    obtain rfl : [] = errors := Except.ok.inj herrors
    exact Bool.eq_false_iff.mpr fun h => (hiff standard_headersApart).mp h rfl

/-- The header of reports is the first word of the header of sources. -/
def wordHeaded : Settings := { Settings.standard with errorHeader := "Generated" }

/-- The source of a graph without nodes is taken for a report. -/
theorem empty_taken_for_report :
    validate ⟨[], []⟩ .empty = .ok [] ∧
      generate ⟨[], []⟩ .empty wordHeaded = .ok "// Generated Rust Code\n" ∧
      isErrorReport "// Generated Rust Code\n" wordHeaded = true := by
  refine ⟨rfl, ?_, ?_⟩ <;> decide +kernel

end NodeGraph
