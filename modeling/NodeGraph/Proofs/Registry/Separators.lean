import NodeGraph.Proofs.Pattern.Cutting
import NodeGraph.Proofs.Registry.Documents

/-!
# The separators of a text

Where documents separate is described by a pattern, for a text with any number of lines. A match of
the pattern is a whole line, so cutting a text at the matches is grouping its lines.
-/

namespace NodeGraph

open Pattern

namespace Separator

/-- Whether a character may stand behind the hyphens. -/
def isBlankChar (c : Char) : Bool := c = ' ' || c = '\t' || c = '\r'

/-! ## The pattern -/

/-- Letter case counts, over all scripts. -/
def manner : Manner := ⟨false, false⟩

def blankItems : List SetItem := [.code 32, .code 9, .code 13]

/-- As many blanks as there are, up to the end of the line. -/
def blanksPattern : Pattern :=
  .andThen (.repeated .greedy 0 none (.oneOf manner false blankItems)) (.anchor (.lineEnd true))

def hyphens : List Char := ['-', '-', '-']

/-- Three hyphens, and blanks behind them. -/
def linePattern : Pattern :=
  hyphens.foldr (fun c => .andThen (.literal manner c.toNat)) blanksPattern

/-- What documents are separated by. -/
def pattern : TextPattern where
  source := "(?m)^---[ \\t\\r]*$"
  pattern := .andThen (.anchor (.lineStart true)) linePattern
  reads := by decide +kernel

variable {text : Subject} {front line tail rest blanks after : List Char} {next : Continuation}
  {groups : List (Nat × Nat × Nat)} {c : Char}

/-! ## Lines that separate -/

theorem isSeparatorLine_hyphens :
    isSeparatorLine (hyphens ++ rest) = true ↔ ∀ c ∈ rest, isBlankChar c = true :=
  List.all_eq_true

/-- A separator is three hyphens and blanks. -/
theorem isSeparatorLine_iff :
    isSeparatorLine line = true ↔
      ∃ blanks, line = hyphens ++ blanks ∧ ∀ c ∈ blanks, isBlankChar c = true := by
  constructor
  · intro h
    unfold isSeparatorLine at h
    split at h
    · exact ⟨_, rfl, List.all_eq_true.mp h⟩
    · cases h
  · rintro ⟨blanks, rfl, hblanks⟩
    exact isSeparatorLine_hyphens.mpr hblanks

/-! ## A match -/

theorem inSet_blankItems (c : Char) :
    (inSet manner blankItems c.toNat != false) = isBlankChar c := by
  have hcode : ∀ d : Char, (d.toNat == c.toNat) = decide (c = d) := by
    intro d
    rw [Bool.beq_eq_decide_eq]
    exact decide_eq_decide.mpr (Char.toNat_inj.trans eq_comm)
  have hspace : (32 == c.toNat) = decide (c = ' ') := hcode ' '
  have htab : (9 == c.toNat) = decide (c = '\t') := hcode '\t'
  have hreturn : (13 == c.toNat) = decide (c = '\r') := hcode '\r'
  simp [inSet, blankItems, SetItem.holds, manner, isBlankChar, hspace, htab, hreturn,
    Bool.or_assoc]

theorem ne_newline_of_blank (h : isBlankChar c = true) : c ≠ '\n' := by
  rintro rfl
  revert h
  decide

/-- Behind the hyphens all blanks are passed, and then the line has to end. -/
theorem matcher_blanks (htext : text = subject (front ++ (blanks ++ after)))
    (hblanks : ∀ c ∈ blanks, isBlankChar c = true)
    (hafter : ∀ c ∈ after.head?, isBlankChar c = false) :
    matcher text blanksPattern ⟨front.length, groups⟩ next =
      if endsLine after then next ⟨front.length + blanks.length, groups⟩ else none := by
  have hfuel : blanks.length < 0 + text.size + 3 := by
    rw [htext, size_subject, List.length_append, List.length_append]
    omega
  have hearly : ∀ i < blanks.length,
      matcher text (.anchor (.lineEnd true)) ⟨front.length + i, groups⟩ next = none := by
    intro i hi
    have hsplit : text = subject ((front ++ blanks.take i) ++ (blanks.drop i ++ after)) := by
      rw [htext, List.append_assoc, ← List.append_assoc (blanks.take i), List.take_append_drop]
    have hlength : (front ++ blanks.take i).length = front.length + i := by
      rw [List.length_append, List.length_take_of_le (Nat.le_of_lt hi)]
    rw [← hlength, matcher_lineEnd hsplit, List.drop_eq_getElem_cons hi, if_neg]
    intro hends
    exact ne_newline_of_blank (hblanks _ (List.getElem_mem hi)) (endsLine_iff.mp hends _ rfl)
  have hbehind : text = subject ((front ++ blanks) ++ after) := by
    rw [htext, List.append_assoc]
  have hloop : matcher text blanksPattern ⟨front.length, groups⟩ next =
      matcher text (.anchor (.lineEnd true)) ⟨front.length + blanks.length, groups⟩ next :=
    greedyLoop_one htext (fun c hc => (inSet_blankItems c).trans (hblanks c hc))
      (fun c hc => (inSet_blankItems c).trans (hafter c hc)) hfuel (by simp) hearly
  rw [hloop, ← List.length_append]
  exact matcher_lineEnd hbehind

/-- A text goes on with blanks, and then with something else. -/
theorem exists_blanks_append (rest : List Char) :
    ∃ blanks others, rest = blanks ++ others ∧ (∀ c ∈ blanks, isBlankChar c = true) ∧
      ∀ c ∈ others.head?, isBlankChar c = false := by
  refine ⟨rest.takeWhile isBlankChar, rest.dropWhile isBlankChar,
    List.takeWhile_append_dropWhile.symm, List.all_eq_true.mp List.all_takeWhile, ?_⟩
  intro c hc
  have hfirst := List.head?_dropWhile_not isBlankChar rest
  rw [hc] at hfirst
  exact hfirst

/-- Behind the hyphens the rest of the line fits if the line separates. -/
theorem matcher_blanks_line (htext : text = subject (front ++ (rest ++ tail))) (hrest : '\n' ∉ rest)
    (htail : endsLine tail = true) :
    matcher text blanksPattern ⟨front.length, groups⟩ next =
      if isSeparatorLine (hyphens ++ rest) then next ⟨front.length + rest.length, groups⟩
        else none := by
  obtain ⟨blanks, others, rfl, hblanks, hothers⟩ := exists_blanks_append rest
  rw [List.append_assoc] at htext
  cases others with
  | nil =>
      have hafter : ∀ c ∈ ([] ++ tail).head?, isBlankChar c = false := by
        intro c hc
        rw [endsLine_iff.mp htail c hc]
        rfl
      rw [matcher_blanks htext hblanks hafter, List.nil_append, List.append_nil, if_pos htail,
        if_pos (isSeparatorLine_hyphens.mpr hblanks)]
  | cons c others =>
      have hc : c ∈ blanks ++ c :: others := by simp
      rw [matcher_blanks htext hblanks hothers, if_neg, if_neg]
      · intro hseparates
        have hblank := isSeparatorLine_hyphens.mp hseparates c hc
        exact Bool.false_ne_true ((hothers c rfl).symm.trans hblank)
      · intro hends
        exact hrest (endsLine_iff.mp hends c rfl ▸ hc)

/-- Only at the start of a line there can be a match. -/
theorem matcher_pattern (htext : text = subject (front ++ rest)) :
    matcher text pattern.pattern ⟨front.length, groups⟩ next =
      if startsLine front then matcher text linePattern ⟨front.length, groups⟩ next else none := by
  show matcher text (.anchor (.lineStart true)) ⟨front.length, groups⟩
    (fun place => matcher text linePattern place next) = _
  exact matcher_lineStart htext

/-- What fits at the front of a line stays inside it, unless it goes on behind a line feed. -/
theorem prefix_of_prefix_append {word : List Char} (hword : '\n' ∉ word)
    (htail : endsLine tail = true) (h : word <+: line ++ tail) : word <+: line := by
  induction word generalizing line with
  | nil => exact List.nil_prefix
  | cons w word ih =>
      obtain ⟨hw, hword⟩ := not_or.mp (mt List.mem_cons.mpr hword)
      cases line with
      | nil =>
          obtain ⟨more, hmore⟩ := h
          rw [List.nil_append] at hmore
          exact absurd (endsLine_iff.mp htail w (by rw [← hmore]; rfl)).symm hw
      | cons c line =>
          obtain ⟨rfl, hrest⟩ := List.cons_prefix_cons.mp h
          exact List.cons_prefix_cons.mpr ⟨rfl, ih hword hrest⟩

/-- At the start of a line there is a match if the line separates, and it is the line. -/
theorem lengthAt?_pattern (hstart : startsLine front = true) (hline : '\n' ∉ line)
    (htail : endsLine tail = true) :
    pattern.pattern.lengthAt? (subject (front ++ (line ++ tail))) front.length =
      if isSeparatorLine line then some line.length else none := by
  obtain ⟨text, htext⟩ : ∃ text, text = subject (front ++ (line ++ tail)) := ⟨_, rfl⟩
  rw [← htext, lengthAt?, matcher_pattern htext, if_pos hstart, linePattern,
    matcher_literals rfl htext]
  split
  · rename_i hprefix
    obtain ⟨rest, rfl⟩ := prefix_of_prefix_append (by decide) htail hprefix
    have hbehind : text = subject ((front ++ hyphens) ++ (rest ++ tail)) := by
      simpa using htext
    have hrest : '\n' ∉ rest := fun h => hline (List.mem_append_right _ h)
    rw [← List.length_append, matcher_blanks_line hbehind hrest htail]
    split
    · simp [Nat.add_assoc]
    · rfl
  · rename_i hprefix
    rw [if_neg]
    · rfl
    · intro hseparates
      obtain ⟨blanks, rfl, _⟩ := isSeparatorLine_iff.mp hseparates
      exact hprefix ⟨blanks ++ tail, (List.append_assoc _ _ _).symm⟩

/-- Behind the first character of a line no match starts. -/
theorem lengthAt?_inside (hrun : line ≠ []) (hline : '\n' ∉ line) :
    pattern.pattern.lengthAt? (subject (front ++ (line ++ tail))) (front ++ line).length =
      none := by
  rw [lengthAt?, matcher_pattern (congrArg subject (List.append_assoc _ _ _).symm), if_neg]
  · rfl
  · intro hstart
    have hlast : (front ++ line).getLast? = some (line.getLast hrun) := by
      rw [List.getLast?_append_of_ne_nil _ hrun, List.getLast?_eq_some_getLast hrun]
    exact hline (startsLine_iff.mp hstart _ hlast ▸ List.getLast_mem hrun)

/-- At a line feed no match starts. -/
theorem lengthAt?_newline (hstart : startsLine front = true) (hline : '\n' ∉ line) :
    pattern.pattern.lengthAt? (subject (front ++ (line ++ '\n' :: tail))) (front ++ line).length =
      none := by
  cases line with
  | nil =>
      rw [List.append_nil, lengthAt?_pattern hstart hline (by simp)]
      rfl
  | cons c line => exact lengthAt?_inside (List.cons_ne_nil _ _) hline

/-! ## Cutting is grouping the lines -/

/-- A line is a match, or belongs to the piece. -/
theorem cutFrom_line (htext : text = subject (front ++ (line ++ tail)))
    (hstart : startsLine front = true) (hline : '\n' ∉ line)
    (htail : endsLine tail = true) :
    let behind := pattern.pattern.cutFrom text (front ++ line).length 0 tail
    pattern.pattern.cutFrom text front.length 0 (line ++ tail) =
      if isSeparatorLine line then ([], (line, behind.1) :: behind.2)
        else (line ++ behind.1, behind.2) := by
  intro behind
  have hlength := lengthAt?_pattern hstart hline htail
  rw [← htext] at hlength
  split
  · rename_i hseparates
    obtain ⟨blanks, rfl, _⟩ := isSeparatorLine_iff.mp hseparates
    rw [if_pos hseparates] at hlength
    exact (cutFrom_of_match hlength).trans (by rw [← List.length_append]; rfl)
  · rename_i hseparates
    rw [if_neg hseparates] at hlength
    have hnone : ∀ i < line.length, pattern.pattern.lengthAt? text (front.length + i) = none := by
      intro i hi
      cases i with
      | zero => exact hlength
      | succ i =>
          have hsplit : text =
              subject (front ++ (line.take (i + 1) ++ (line.drop (i + 1) ++ tail))) := by
            rw [htext, ← List.append_assoc (line.take _), List.take_append_drop]
          have htake : front.length + (i + 1) = (front ++ line.take (i + 1)).length := by
            rw [List.length_append, List.length_take_of_le (Nat.le_of_lt hi)]
          rw [hsplit, htake]
          refine lengthAt?_inside ?_ fun h => hline (List.mem_of_mem_take h)
          exact List.ne_nil_of_length_pos (by simp; omega)
    rw [cutFrom_of_noMatch hnone, ← List.length_append]

/-- A line feed belongs to the piece. -/
theorem cutFrom_newline (htext : text = subject (front ++ (line ++ '\n' :: tail)))
    (hstart : startsLine front = true) (hline : '\n' ∉ line) :
    let behind := pattern.pattern.cutFrom text (front ++ line ++ ['\n']).length 0 tail
    pattern.pattern.cutFrom text (front ++ line).length 0 ('\n' :: tail) =
      ('\n' :: behind.1, behind.2) := by
  intro behind
  have hnone : ∀ i < ['\n'].length,
      pattern.pattern.lengthAt? text ((front ++ line).length + i) = none := by
    intro i hi
    obtain rfl : i = 0 := Nat.lt_one_iff.mp hi
    rw [htext]
    exact lengthAt?_newline hstart hline
  exact (cutFrom_of_noMatch hnone).trans (by rw [← List.length_append]; rfl)

theorem intercalate_cons {others : List (List Char)} (hne : others ≠ []) :
    ['\n'].intercalate (line :: others) = line ++ '\n' :: ['\n'].intercalate others :=
  (List.intercalate_cons_of_ne_nil hne).trans (List.append_assoc _ _ _)

/-- Lines are cut into the groups between those that match. -/
theorem cutFrom_lines {lines : List (List Char)} (hne : lines ≠ [])
    (hlines : ∀ line ∈ lines, '\n' ∉ line) (hstart : startsLine front = true)
    (htext : text = subject (front ++ ['\n'].intercalate lines)) :
    let cut := pattern.pattern.cutFrom text front.length 0 (['\n'].intercalate lines)
    cut.1 :: cut.2.map Prod.snd = (groupLines lines).map (['\n'].intercalate) ∧
      cut.2.map Prod.fst = lines.filter isSeparatorLine := by
  induction lines generalizing front with
  | nil => exact absurd rfl hne
  | cons line rest ih =>
      obtain ⟨hline, hrest⟩ := List.forall_mem_cons.mp hlines
      cases rest with
      | nil =>
          have hsplit : ['\n'].intercalate [line] = line ++ [] := by simp
          rw [hsplit] at htext ⊢
          rw [cutFrom_line htext hstart hline (by simp)]
          cases hseparates : isSeparatorLine line <;> simp [groupLines, hseparates, cutFrom]
      | cons next rest =>
          have hsplit : ['\n'].intercalate (line :: next :: rest) =
              line ++ '\n' :: ['\n'].intercalate (next :: rest) :=
            intercalate_cons (List.cons_ne_nil _ _)
          have hbehind : text =
              subject (front ++ line ++ ['\n'] ++ ['\n'].intercalate (next :: rest)) := by
            rw [htext, hsplit]
            simp
          obtain ⟨hpieces, hfound⟩ :=
            ih (List.cons_ne_nil _ _) hrest startsLine_append_newline hbehind
          obtain ⟨first, others, hgroups, hcons⟩ := exists_groupLines_cons line (next :: rest)
          have hfirst : ∀ line, ['\n'].intercalate (line :: first) =
              line ++ '\n' :: ['\n'].intercalate first := by
            intro line
            have hne : first ≠ [] :=
              ne_nil_of_mem_groupLines (List.cons_ne_nil _ _) (hgroups ▸ List.mem_cons_self)
            exact intercalate_cons hne
          rw [hgroups, List.map_cons, List.cons.injEq] at hpieces
          rw [hsplit] at htext ⊢
          rw [cutFrom_line htext hstart hline (by simp), cutFrom_newline htext hstart hline, hcons]
          generalize pattern.pattern.cutFrom text (front ++ line ++ ['\n']).length 0 _ = behind
            at hpieces hfound ⊢
          obtain ⟨hpiece, hothers⟩ := hpieces
          cases hseparates : isSeparatorLine line <;>
            simp [hseparates, hfirst, hpiece, hothers, hfound]

end Separator

/-- A text is cut at its separators: the lines that are three hyphens with nothing but spaces, tabs
and carriage returns behind them. They are the matches of the pattern, and the segments are what is
left between them, so there is one segment more, segments and separators in turn are the text, and
no segment is cut any further. -/
theorem splitDocuments_at_separators (text : String) :
    let separators := (text.toList.splitOn '\n').filter isSeparatorLine
    let cut := Separator.pattern.pattern.cut text.toList
    (∀ line, isSeparatorLine line = true ↔
      ∃ blanks, line = ['-', '-', '-'] ++ blanks ∧ ∀ c ∈ blanks, c = ' ' ∨ c = '\t' ∨ c = '\r') ∧
    cut.2.map Prod.fst = separators ∧
    splitDocuments text = (cut.1 :: cut.2.map Prod.snd).map String.ofList ∧
    (splitDocuments text).length = separators.length + 1 ∧
    (∃ first others, splitDocuments text = first :: others ∧
      text.toList = first.toList ++
        (separators.zipWith (fun line segment => line ++ segment.toList) others).flatten) ∧
    ∀ segment ∈ splitDocuments text, splitDocuments segment = [segment] := by
  intro separators cut
  have hblank : ∀ c, Separator.isBlankChar c = true ↔ c = ' ' ∨ c = '\t' ∨ c = '\r' := by
    intro c
    simp [Separator.isBlankChar, or_assoc]
  have hlines : ∀ line ∈ text.toList.splitOn '\n', '\n' ∉ line := fun _ => notMem_of_mem_splitOn
  have hpieces : cut.1 :: cut.2.map Prod.snd =
        (groupLines (text.toList.splitOn '\n')).map (['\n'].intercalate) ∧
      cut.2.map Prod.fst = separators := by
    have hstart : startsLine [] = true := rfl
    have hcut := Separator.cutFrom_lines (List.splitOn_ne_nil _ _) hlines hstart rfl
    rwa [List.intercalate_splitOn] at hcut
  obtain ⟨hpieces, hfound⟩ := hpieces
  have hdocuments : splitDocuments text = (cut.1 :: cut.2.map Prod.snd).map String.ofList := by
    rw [hpieces, List.map_map]
    rfl
  refine ⟨fun line => ?_, hfound, hdocuments, ?_, ⟨_, _, hdocuments, ?_⟩,
    fun _ => splitDocuments_of_mem⟩
  · rw [Separator.isSeparatorLine_iff]
    simp only [hblank]
    rfl
  · rw [hdocuments, ← hfound]
    simp
  · have hjoin : join cut = text.toList := join_cut _ _
    rw [← hjoin, ← hfound, List.map_map, List.zipWith_map, List.zipWith_self, join,
      List.flatMap_def]
    simp

end NodeGraph
