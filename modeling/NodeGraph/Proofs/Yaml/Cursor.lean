import Mathlib.Data.Bool.AllAny
import Mathlib.Data.List.TakeWhile
import NodeGraph.Yaml.Cursor
import NodeGraph.Yaml.Printer

/-!
# Moving a cursor

How far a cursor gets over characters without a line break, over a line break with the indentation
behind it, and over blanks. Written documents consist of printable ASCII and line breaks only.
-/

namespace NodeGraph.Yaml

open Printer

theorem length_lineBreak (n : ℕ) : (lineBreak n).length = n + 1 := by simp [lineBreak]

/-! ## Characters -/

theorem isPlainAscii_iff {c : Char} : isPlainAscii c = true ↔ 32 ≤ c.toNat ∧ c.toNat ≤ 126 := by
  simp only [isPlainAscii, Bool.and_eq_true, decide_eq_true_eq]
  exact Iff.rfl

/-- A character that is no printable ASCII is none of those. -/
theorem ne_of_isPlainAscii {c d : Char} (hc : isPlainAscii c = true)
    (hd : isPlainAscii d = false) : c ≠ d := by
  rintro rfl
  rw [hc] at hd
  cases hd

theorem isBreak_of_isPlainAscii {c : Char} (h : isPlainAscii c = true) : isBreak c = false := by
  have hne : ∀ d ∈ ['\n', '\r', '\x85', '\u2028', '\u2029'], c ≠ d := fun d hd =>
    ne_of_isPlainAscii h
      ((List.all_iff_forall_prop (p := fun d => isPlainAscii d = false)).mp (by decide) d hd)
  simp only [List.forall_mem_cons] at hne
  simp [isBreak, hne]

/-- Among the printable characters only the space is a gap. -/
theorem isGap_eq_of_isPlainAscii {c : Char} (h : isPlainAscii c = true) :
    isGap c = decide (c = ' ') := by
  have htab : c ≠ '\t' := ne_of_isPlainAscii h (by decide)
  have hend : c ≠ '\x00' := ne_of_isPlainAscii h (by decide)
  simp [isGap, isSpaceBreakOrEnd, isBreakOrEnd, isBreak_of_isPlainAscii h, isEnd, htab, hend]

theorem isGap_eq_false_iff {c : Char} :
    isGap c = false ↔ c ≠ '\t' ∧ c ≠ ' ' ∧ isBreak c = false ∧ isEnd c = false := by
  simp [isGap, isSpaceBreakOrEnd, isBreakOrEnd]

theorem isDocumentChar_of_isPlainAscii {c : Char} (h : isPlainAscii c = true) :
    isDocumentChar c = true := by
  obtain ⟨hlow, hhigh⟩ := isPlainAscii_iff.mp h
  simp [isDocumentChar, hlow, hhigh]

namespace Cursor

variable {c : Cursor} {cs ds : List Char} {ch : Char} {n k : ℕ}

/-! ## Skipping -/

theorem skip_add (m n : ℕ) : c.skip (m + n) = (c.skip m).skip n := by
  induction m generalizing c with
  | zero => rw [Nat.zero_add, skip]
  | succ m ih => rw [Nat.succ_add, skip, skip, ih]

theorem rest_next : c.next.rest = c.rest.tail := by
  cases h : c.rest with
  | nil => simp [next, h]
  | cons x xs =>
      simp only [next, h, apply_ite Cursor.rest, ite_self, List.tail_cons]

theorem rest_skip (n : ℕ) : (c.skip n).rest = c.rest.drop n := by
  induction n generalizing c with
  | zero => rfl
  | succ n ih => rw [skip, ih, rest_next, List.drop_tail]

/-- What follows after some characters have been passed. -/
theorem rest_skip_of_eq (h : c.rest = cs ++ ds) : (c.skip cs.length).rest = ds := by
  rw [rest_skip, h, List.drop_left]

theorem rest_skip_replicate (h : c.rest = List.replicate k ch ++ ds) : (c.skip k).rest = ds := by
  have hrest := rest_skip_of_eq h
  rwa [List.length_replicate] at hrest

theorem head_of_eq (h : c.rest = ch :: cs) : c.head = ch := by simp [head, h]

theorem next_of_isPlainAscii (h : c.rest = ch :: cs) (hch : isPlainAscii ch = true) :
    c.next = ⟨cs, c.line, c.column + 1, c.index + 1⟩ := by
  have hreturn : ch ≠ '\r' := ne_of_isPlainAscii hch (by decide)
  have hmark : ch ≠ '\uFEFF' := ne_of_isPlainAscii hch (by decide)
  simp [next, h, hreturn, hmark, isBreak_of_isPlainAscii hch]

/-- Within a line every character is one column. -/
theorem skip_of_isPlainAscii (h : c.rest = cs ++ ds) (hcs : ∀ x ∈ cs, isPlainAscii x = true) :
    c.skip cs.length = ⟨ds, c.line, c.column + cs.length, c.index + cs.length⟩ := by
  induction cs generalizing c with
  | nil =>
      rw [List.nil_append] at h
      rw [← h]
      rfl
  | cons x cs ih =>
      obtain ⟨hx, hcs⟩ := List.forall_mem_cons.mp hcs
      have hnext := next_of_isPlainAscii h hx
      have hrest : c.next.rest = cs ++ ds := by
        rw [hnext]
        rfl
      rw [List.length_cons, skip, ih hrest hcs, hnext]
      simp only [Nat.add_assoc, Nat.add_comm 1]

theorem skip_spaces (h : c.rest = List.replicate k ' ' ++ ds) :
    c.skip k = ⟨ds, c.line, c.column + k, c.index + k⟩ := by
  have hspaces : ∀ x ∈ List.replicate k ' ', isPlainAscii x = true := by
    intro x hx
    rw [List.eq_of_mem_replicate hx]
    rfl
  have hskip := skip_of_isPlainAscii h hspaces
  rwa [List.length_replicate] at hskip

theorem next_of_newline (h : c.rest = '\n' :: cs) :
    c.next = ⟨cs, c.line + 1, 0, c.index + 1⟩ := by
  simp [next, h, isBreak]

/-- Behind a line break the cursor stands at the column that the new line is indented to. -/
theorem skip_lineBreak (h : c.rest = lineBreak n ++ cs) :
    c.skip (n + 1) = ⟨cs, c.line + 1, n, c.index + 1 + n⟩ := by
  have hnext : c.next = ⟨List.replicate n ' ' ++ cs, c.line + 1, 0, c.index + 1⟩ :=
    next_of_newline (by rw [h, lineBreak, List.cons_append])
  have hskip : c.next.skip n = _ := skip_spaces (by rw [hnext])
  rw [skip, hskip, hnext]
  simp

theorem line_le_next : c.line ≤ c.next.line := by
  cases h : c.rest with
  | nil => simp [next, h]
  | cons x xs =>
      simp only [next, h, apply_ite Cursor.line]
      split <;> split <;> omega

theorem line_le_skip (n : ℕ) : c.line ≤ (c.skip n).line := by
  induction n generalizing c with
  | zero => exact le_rfl
  | succ n ih => exact line_le_next.trans ih

/-! ## Spans -/

/-- The characters up to the first one that fails a test. -/
theorem span_of_eq {p : Char → Bool} (h : c.rest = cs ++ ds) (hcs : ∀ x ∈ cs, p x = true)
    (hds : ∀ x, ds.head? = some x → p x = false) : c.span p = (cs, c.skip cs.length) := by
  have htaken : c.rest.takeWhile p = cs := by
    rw [h, List.takeWhile_append_of_pos hcs]
    cases ds with
    | nil => simp
    | cons x ds => simp [hds x rfl]
  simp only [span, htaken]

theorem span_replicate {p : Char → Bool} (h : c.rest = List.replicate k ch ++ ds)
    (hch : p ch = true) (hds : ∀ x, ds.head? = some x → p x = false) :
    c.span p = (List.replicate k ch, c.skip k) := by
  have hspan := span_of_eq h (fun x hx => by rwa [List.eq_of_mem_replicate hx]) hds
  rwa [List.length_replicate] at hspan

/-- Nothing is skipped before a character that fails the test. -/
theorem skipWhile_of_head {p : Char → Bool} (h : ∀ x, c.rest.head? = some x → p x = false) :
    c.skipWhile p = c := by
  have hspan : c.span p = ([], c.skip 0) := span_of_eq (List.nil_append c.rest).symm (by simp) h
  rw [skipWhile, hspan]
  rfl

theorem skipWhile_replicate {p : Char → Bool} (h : c.rest = List.replicate k ch ++ ds)
    (hch : p ch = true) (hds : ∀ x, ds.head? = some x → p x = false) :
    c.skipWhile p = c.skip k := by
  rw [skipWhile, span_replicate h hch hds]

/-! ## Line breaks -/

theorem takeBreak_of_head (h : ∀ x, c.rest.head? = some x → isBreak x = false) :
    c.takeBreak = (none, c) := by
  unfold takeBreak
  split
  · rename_i heq
    have hbreak := h '\r' (by rw [heq]; rfl)
    cases hbreak
  · rename_i x _ _ heq
    have hbreak := h x (by rw [heq]; rfl)
    have hne : x ≠ '\u2028' ∧ x ≠ '\u2029' := by
      constructor <;>
      · rintro rfl
        cases hbreak
    simp [hne, hbreak]
  · rfl

theorem takeBreak_of_newline (h : c.rest = '\n' :: cs) : c.takeBreak = (some '\n', c.next) := by
  simp [takeBreak, h, isBreak]

/-- A document separator does not start with a space. -/
theorem atSeparator_of_head (hdash : c.head ≠ '-') (hdot : c.head ≠ '.') :
    c.atSeparator = false := by
  simp [atSeparator, atMarker, hdash, hdot]

end Cursor

/-! ## Starts of text -/

/-- Text that goes on in the middle of a line: at its start stands no blank and no line break. -/
def Solid (cs : List Char) : Prop := ∀ x, cs.head? = some x → isGap x = false

end NodeGraph.Yaml
