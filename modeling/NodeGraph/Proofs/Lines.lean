import Mathlib.Data.Bool.AllAny
import Mathlib.Data.List.Basic

/-!
# Lines and comments

The lines of a text, whatever characters end a line besides the line feed, and when all that a text
adds to the lines of another one is comment. A text is a comment if each of its lines starts with a
mark, empty lines aside. Behind a mark, a text needs it only from its second line on.
-/

namespace NodeGraph

/-- Which characters end a line. A line feed does; the printable characters of ASCII do not. -/
structure LineBreaks where
  ends : Char → Bool
  newline : ends '\n' = true
  printable : ∀ c, ' ' ≤ c → c ≤ '~' → ends c = false

/-- The text has printable characters of ASCII only. -/
def isPrintableAscii (s : String) : Bool := s.toList.all fun c => ' ' ≤ c && c ≤ '~'

namespace LineBreaks

/-- Line feeds end lines, and nothing else. -/
def feeds : LineBreaks where
  ends c := c = '\n'
  newline := by decide
  printable := by
    intro c hc _
    refine decide_eq_false ?_
    rintro rfl
    exact absurd hc (by decide)

/-- The line feed and the other controls and separators at which texts are taken apart. -/
def separatorChars : List Char :=
  ['\n', '\x0b', '\x0c', '\r', '\x1c', '\x1d', '\x1e', '\x85', '\u2028', '\u2029']

theorem separatorChars_not_printable : ∀ c ∈ separatorChars, c < ' ' ∨ '~' < c :=
  List.all_iff_forall_prop.mp (by decide)

/-- All separators end lines. A carriage return with a line feed behind it ends two, of which the
second one is empty. -/
def separators : LineBreaks where
  ends c := separatorChars.contains c
  newline := by decide
  printable := by
    intro c hlow hhigh
    rw [← Bool.not_eq_true, List.contains_iff_mem]
    intro hc
    rcases separatorChars_not_printable c hc with h | h
    · exact Char.not_le.mpr h hlow
    · exact Char.not_le.mpr h hhigh

variable {b : LineBreaks} {mark s t sep : String} {parts : List String}

/-! ## Texts without breaks -/

/-- The text is on one line. -/
def Free (b : LineBreaks) (s : String) : Prop := ∀ c ∈ s.toList, b.ends c = false

instance (b : LineBreaks) (s : String) : Decidable (b.Free s) :=
  decidable_of_iff ((s.toList.all fun c => !b.ends c) = true) (by simp [Free])

theorem free_of_isPrintableAscii (h : isPrintableAscii s = true) : b.Free s := by
  intro c hc
  have hbounds := List.all_eq_true.mp h c hc
  rw [Bool.and_eq_true, decide_eq_true_eq, decide_eq_true_eq] at hbounds
  exact b.printable c hbounds.1 hbounds.2

@[simp] theorem free_append : b.Free (s ++ t) ↔ b.Free s ∧ b.Free t := by
  simp only [Free, String.toList_append, List.forall_mem_append]

theorem free_intercalate (hsep : b.Free sep) (h : ∀ part ∈ parts, b.Free part) :
    b.Free (sep.intercalate parts) := by
  induction parts with
  | nil => exact fun c hc => nomatch hc
  | cons part parts ih =>
      have hrest := ih fun p hp => h p (List.mem_cons_of_mem _ hp)
      cases parts with
      | nil => exact String.intercalate_singleton ▸ h part List.mem_cons_self
      | cons next parts =>
          rw [String.intercalate_cons_cons]
          exact free_append.mpr ⟨free_append.mpr ⟨h part List.mem_cons_self, hsep⟩, hrest⟩

/-! ## Lines -/

def lines (b : LineBreaks) (s : String) : List (List Char) := s.toList.splitOnP b.ends

/-- No part holds a character that parts end at. -/
theorem eq_false_of_mem_splitOnP {p : Char → Bool} {cs part : List Char}
    (h : part ∈ cs.splitOnP p) : ∀ c ∈ part, p c = false := by
  -- the first part is the one that grows, so the claim is about any part
  induction cs generalizing part with
  | nil =>
      rw [List.splitOnP_nil, List.mem_singleton] at h
      rw [h]
      exact List.forall_mem_nil _
  | cons c cs ih =>
      rw [List.splitOnP_cons_eq_if_modifyHead] at h
      split at h
      · rcases List.mem_cons.mp h with rfl | h
        · exact List.forall_mem_nil _
        · exact ih h
      · rename_i hc
        obtain ⟨first, others, heq⟩ := List.exists_cons_of_ne_nil (List.splitOnP_ne_nil p cs)
        rw [heq] at ih h
        rcases List.mem_cons.mp h with rfl | h
        · exact List.forall_mem_cons.mpr ⟨Bool.eq_false_iff.mpr hc, ih List.mem_cons_self⟩
        · exact ih (List.mem_cons_of_mem _ h)

theorem splitOnP_append {p : Char → Bool} {front : List Char} (h : ∀ c ∈ front, p c = false)
    (back : List Char) :
    (front ++ back).splitOnP p = (back.splitOnP p).modifyHead (front ++ ·) := by
  induction front with
  | nil => exact (congrFun List.modifyHead_id _).symm
  | cons c front ih =>
      have hc : p c = false := h c List.mem_cons_self
      rw [List.cons_append, List.splitOnP_cons_eq_if_modifyHead, hc,
        ih fun d hd => h d (List.mem_cons_of_mem _ hd)]
      simp [List.modifyHead_modifyHead, Function.comp_def]

theorem lines_of_free (h : b.Free s) : b.lines s = [s.toList] := by
  have hlines := splitOnP_append h []
  rwa [List.append_nil, List.splitOnP_nil, List.modifyHead_cons, List.append_nil] at hlines

theorem lines_append_newline (s t : String) :
    b.lines (s ++ "\n" ++ t) = b.lines s ++ b.lines t := by
  simp only [lines, String.toList_append, List.append_assoc]
  exact List.splitOnP_append_cons _ _ b.newline

theorem lines_append_of_free (h : b.Free s) (t : String) :
    b.lines (s ++ t) = (b.lines t).modifyHead (s.toList ++ ·) := by
  rw [lines, String.toList_append, splitOnP_append h, lines]

/-- Texts that are put on a line each are the lines, if none has a break. -/
theorem lines_intercalate_iff (hne : parts ≠ []) :
    b.lines ("\n".intercalate parts) = parts.map (·.toList) ↔ ∀ part ∈ parts, b.Free part := by
  constructor
  · intro h part hpart
    have hmem : part.toList ∈ b.lines ("\n".intercalate parts) := h ▸ List.mem_map_of_mem hpart
    exact eq_false_of_mem_splitOnP hmem
  · intro h
    induction parts with
    | nil => exact absurd rfl hne
    | cons part parts ih =>
        obtain ⟨hpart, hparts⟩ := List.forall_mem_cons.mp h
        cases parts with
        | nil => rw [String.intercalate_singleton, lines_of_free hpart, List.map_singleton]
        | cons next parts =>
            rw [String.intercalate_cons_cons, lines_append_newline, lines_of_free hpart,
              ih (List.cons_ne_nil _ _) hparts, List.map_cons]
            rfl

/-! ## Comments -/

/-- Each line that is not empty starts with the mark. -/
def Commented (b : LineBreaks) (mark s : String) : Prop :=
  ∀ line ∈ b.lines s, line ≠ [] → mark.toList <+: line

/-- The same for the lines behind the first one. -/
def StaysCommented (b : LineBreaks) (mark s : String) : Prop :=
  ∀ line ∈ (b.lines s).tail, line ≠ [] → mark.toList <+: line

theorem Free.staysCommented (h : b.Free s) : b.StaysCommented mark s := by
  rw [StaysCommented, lines_of_free h]
  exact fun line hline => nomatch hline

/-- Behind a mark on its line, a text is commented if it stays so. -/
theorem commented_append_iff (hfree : b.Free s) (hmark : mark.toList <+: s.toList) :
    b.Commented mark (s ++ t) ↔ b.StaysCommented mark t := by
  obtain ⟨first, rest, hlines⟩ := List.exists_cons_of_ne_nil (List.splitOnP_ne_nil b.ends t.toList)
  have hlines : b.lines t = first :: rest := hlines
  rw [Commented, lines_append_of_free hfree, StaysCommented, hlines, List.modifyHead_cons,
    List.forall_mem_cons, List.tail_cons]
  exact and_iff_right fun _ => hmark.trans (List.prefix_append _ _)

theorem commented_append_newline :
    b.Commented mark (s ++ "\n" ++ t) ↔ b.Commented mark s ∧ b.Commented mark t := by
  simp only [Commented, lines_append_newline, List.forall_mem_append]

theorem commented_empty : b.Commented mark "" := by
  intro line hline hne
  exact absurd (List.mem_singleton.mp hline) hne

theorem commented_append_newlines :
    b.Commented mark (s ++ "\n\n" ++ t) ↔ b.Commented mark s ∧ b.Commented mark t := by
  have htwo : s ++ "\n\n" ++ t = s ++ "\n" ++ "" ++ "\n" ++ t := by
    simp [← String.toList_inj]
  rw [htwo, commented_append_newline, commented_append_newline]
  simp [commented_empty]

theorem commented_intercalate_iff
    (hsep : ∀ s t, b.Commented mark (s ++ sep ++ t) ↔ b.Commented mark s ∧ b.Commented mark t) :
    b.Commented mark (sep.intercalate parts) ↔ ∀ part ∈ parts, b.Commented mark part := by
  induction parts with
  | nil => exact iff_of_true commented_empty fun part hpart => nomatch hpart
  | cons part parts ih =>
      rw [List.forall_mem_cons, ← ih]
      cases parts with
      | nil =>
          rw [String.intercalate_singleton]
          exact (and_iff_left commented_empty).symm
      | cons next parts => rw [String.intercalate_cons_cons, hsep]

end LineBreaks

end NodeGraph
