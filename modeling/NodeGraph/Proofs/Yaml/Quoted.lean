import Mathlib.Data.List.Basic
import NodeGraph.Proofs.Yaml.Plain

/-!
# Quoted scalars

A text between quotation marks is read piece by piece: characters, spaces, line breaks with the
empty lines behind them, and escapes. Each piece has a rule for `Quotes`, which says what is read up
to the closing mark.
-/

namespace NodeGraph.Yaml

open Printer

variable {c : Cursor} {rest printed text : List Char} {ch : Char} {double : Bool} {k n m : ℕ}

/-! ## Blanks -/

theorem Solid.not_blank (h : Solid rest) :
    ∀ x, rest.head? = some x → (decide (x = ' ') || decide (x = '\t')) = false := by
  intro x hx
  obtain ⟨htab, hspace, _⟩ := isGap_eq_false_iff.mp (h x hx)
  simp [htab, hspace]

theorem Solid.append (h : Solid printed) (hne : printed ≠ []) : Solid (printed ++ rest) := by
  intro x hx
  rw [List.head?_append_of_ne_nil _ hne] at hx
  exact h x hx

theorem quotedBlanks_spaces (h : c.rest = List.replicate k ' ' ++ rest) (hrest : Solid rest)
    (hne : rest ≠ []) : quotedBlanks c = .ok (List.replicate k ' ', c.skip k) := by
  have hskip : (c.skip k).rest = rest := Cursor.rest_skip_replicate h
  obtain ⟨x, xs, rfl⟩ := List.exists_cons_of_ne_nil hne
  have hend : isEnd (c.skip k).head = false := by
    rw [Cursor.head_of_eq hskip]
    exact (isGap_eq_false_iff.mp (hrest x rfl)).2.2.2
  have hbreak : (c.skip k).takeBreak = (none, c.skip k) :=
    Cursor.takeBreak_of_head (by rw [hskip]; exact hrest.not_break)
  simp only [quotedBlanks, Cursor.span_replicate h rfl hrest.not_blank, hend, hbreak,
    Bool.false_eq_true, if_false]

theorem not_blank_of_newline {x : Char} (h : (('\n' : Char) :: rest).head? = some x) :
    (decide (x = ' ') || decide (x = '\t')) = false := by
  obtain rfl : '\n' = x := by simpa using h
  rfl

/-- Empty lines and the indentation of the next line, which has to be there. -/
theorem quotedBreaks_lines {fuel : ℕ} (hfuel : n < fuel) (hm : 0 < m)
    (h : c.rest = List.replicate n '\n' ++ (List.replicate m ' ' ++ rest)) (hrest : Solid rest) :
    quotedBreaks fuel c = .ok (List.replicate n '\n', c.skip (n + m)) := by
  induction n generalizing c fuel with
  | zero =>
      obtain ⟨fuel, rfl⟩ : ∃ f, fuel = f + 1 := ⟨fuel - 1, by omega⟩
      obtain ⟨m, rfl⟩ : ∃ l, m = l + 1 := ⟨m - 1, by omega⟩
      rw [List.replicate_zero, List.nil_append] at h
      have hhead : c.head = ' ' := Cursor.head_of_eq h
      have hseparator : c.atSeparator = false :=
        Cursor.atSeparator_of_head (by rw [hhead]; decide) (by rw [hhead]; decide)
      have hskip : (c.skip (m + 1)).rest = rest := Cursor.rest_skip_replicate h
      have hbreak : (c.skip (m + 1)).takeBreak = (none, c.skip (m + 1)) :=
        Cursor.takeBreak_of_head (by rw [hskip]; exact hrest.not_break)
      simp only [quotedBreaks, hseparator, Bool.false_eq_true, if_false,
        Cursor.skipWhile_replicate h rfl hrest.not_blank, hbreak, Nat.zero_add]
      rfl
  | succ n ih =>
      obtain ⟨fuel, rfl⟩ : ∃ f, fuel = f + 1 := ⟨fuel - 1, by omega⟩
      rw [List.replicate_succ, List.cons_append] at h
      have hhead : c.head = '\n' := Cursor.head_of_eq h
      have hseparator : c.atSeparator = false :=
        Cursor.atSeparator_of_head (by rw [hhead]; decide) (by rw [hhead]; decide)
      have hnone : c.skipWhile (fun ch => ch = ' ' || ch = '\t') = c :=
        Cursor.skipWhile_of_head (by rw [h]; exact fun x hx => not_blank_of_newline hx)
      simp only [quotedBreaks, hseparator, Bool.false_eq_true, if_false, hnone,
        Cursor.takeBreak_of_newline h]
      rw [ih (by omega) (by rw [Cursor.rest_next, h]; rfl), Nat.succ_add]
      rfl

/-- A line break, empty lines, and the indentation of the next line. -/
theorem quotedBlanks_lines (hm : 0 < m)
    (h : c.rest = List.replicate n '\n' ++ (lineBreak m ++ rest)) (hrest : Solid rest) :
    quotedBlanks c = .ok (foldBreaks '\n' (List.replicate n '\n'), c.skip (n + (m + 1))) := by
  have hlines : c.rest = '\n' :: (List.replicate n '\n' ++ (List.replicate m ' ' ++ rest)) := by
    have hsucc : List.replicate n '\n' ++ ['\n'] = '\n' :: List.replicate n '\n' :=
      List.replicate_succ'.symm
    rw [h, lineBreak, List.cons_append, ← List.singleton_append, ← List.append_assoc, hsucc]
    rfl
  have hspan : c.span (fun ch => ch = ' ' || ch = '\t') = ([], c.skip 0) :=
    Cursor.span_of_eq (hlines.trans (List.nil_append _).symm) (by simp)
      fun x hx => not_blank_of_newline hx
  have hend : isEnd (c.skip 0).head = false := by
    rw [show (c.skip 0).head = '\n' from Cursor.head_of_eq hlines]
    rfl
  have hbreak : (c.skip 0).takeBreak = (some '\n', c.next) := Cursor.takeBreak_of_newline hlines
  have hnext : c.next.rest = List.replicate n '\n' ++ (List.replicate m ' ' ++ rest) := by
    rw [Cursor.rest_next, hlines]
    rfl
  have hfuel : n < c.next.rest.length + 1 := by
    rw [hnext]
    simp only [List.length_append, List.length_replicate]
    omega
  simp only [quotedBlanks, hspan, hend, hbreak, Bool.false_eq_true, if_false,
    quotedBreaks_lines hfuel hm hnext hrest]
  rw [show n + (m + 1) = n + m + 1 by omega]
  rfl

/-! ## Pieces -/

/-- `text` is what is read up to the closing mark, the last character of `printed`. -/
def Quotes (double : Bool) (printed text : List Char) : Prop :=
  ∀ ⦃rest : List Char⦄ ⦃c : Cursor⦄ ⦃fuel : ℕ⦄, rest.head? ≠ some '\x27' →
    c.rest = printed ++ rest → printed.length ≤ fuel →
      quoted double fuel c = .ok (text, c.skip printed.length)

namespace Quotes

theorem close_single : Quotes false ['\x27'] [] := by
  intro rest c fuel hrest h hfuel
  obtain ⟨fuel, rfl⟩ : ∃ f, fuel = f + 1 := ⟨fuel - 1, by simp at hfuel; omega⟩
  have hpeek : c.peek 1 ≠ '\x27' := by
    rw [Cursor.peek, h]
    cases rest with
    | nil => decide
    | cons x rest => simpa using hrest
  rw [quoted, h]
  simp [isBreak, hpeek]
  rfl

theorem close_double : Quotes true ['\x22'] [] := by
  intro rest c fuel hrest h hfuel
  obtain ⟨fuel, rfl⟩ : ∃ f, fuel = f + 1 := ⟨fuel - 1, by simp at hfuel; omega⟩
  rw [quoted, h]
  simp [isBreak]
  rfl

/-- What is read for a piece comes before what is read for the rest. -/
theorem piece (piece got : List Char) (hpiece : piece ≠ [])
    (h : ∀ {rest : List Char} {c : Cursor} {fuel : ℕ}, rest.head? ≠ some '\x27' →
      c.rest = piece ++ (printed ++ rest) →
        quoted double (fuel + 1) c =
          (quoted double fuel (c.skip piece.length)).map fun p => (got ++ p.1, p.2))
    (hquotes : Quotes double printed text) : Quotes double (piece ++ printed) (got ++ text) := by
  intro rest c fuel hrest hc hfuel
  have hlength : 0 < piece.length := List.length_pos_iff.mpr hpiece
  rw [List.length_append] at hfuel ⊢
  obtain ⟨fuel, rfl⟩ : ∃ f, fuel = f + 1 := ⟨fuel - 1, by omega⟩
  rw [List.append_assoc] at hc
  rw [h hrest hc, hquotes hrest (Cursor.rest_skip_of_eq hc) (by omega), Cursor.skip_add]
  rfl

theorem char (hch : isPlainAscii ch = true) (hspace : ch ≠ ' ')
    (hmark : ch ≠ if double then '\x22' else '\x27') (hescape : double = true → ch ≠ '\\')
    (hquotes : Quotes double printed text) : Quotes double (ch :: printed) (ch :: text) := by
  refine piece [ch] [ch] (by simp) ?_ hquotes
  intro rest c fuel _ hc
  have htab : ch ≠ '\t' := ne_of_isPlainAscii hch (by decide)
  have hbreak := isBreak_of_isPlainAscii hch
  rw [quoted, hc]
  cases double with
  | false =>
      simp [hspace, htab, hbreak, show ch ≠ '\x27' from hmark]
      rfl
  | true =>
      simp [hspace, htab, hbreak, show ch ≠ '\x22' from hmark, hescape rfl]
      rfl

/-- Two single quotation marks stand for one. -/
theorem twice (hquotes : Quotes false printed text) :
    Quotes false ('\x27' :: '\x27' :: printed) ('\x27' :: text) := by
  refine piece ['\x27', '\x27'] ['\x27'] (by simp) ?_ hquotes
  intro rest c fuel _ hc
  have hpeek : c.peek 1 = '\x27' := by rw [Cursor.peek, hc]; rfl
  rw [quoted, hc]
  simp [isBreak, hpeek]
  rfl

/-- Blanks are one piece. -/
theorem blanks {piece got : List Char} {x : Char} (hpiece : piece.head? = some x)
    (hx : x = ' ' ∨ x = '\n')
    (h : ∀ {rest : List Char} {c : Cursor}, c.rest = piece ++ (printed ++ rest) →
      quotedBlanks c = .ok (got, c.skip piece.length))
    (hquotes : Quotes double printed text) : Quotes double (piece ++ printed) (got ++ text) := by
  refine Quotes.piece piece got (by rintro rfl; cases hpiece) ?_ hquotes
  intro rest c fuel _ hc
  obtain ⟨xs, rfl⟩ := List.head?_eq_some_iff.mp hpiece
  have hblank : x = ' ' ∨ x = '\t' ∨ isBreak x = true := by
    rcases hx with rfl | rfl
    · exact .inl rfl
    · exact .inr (.inr rfl)
  rw [quoted, h hc, hc]
  dsimp only [List.cons_append]
  rw [if_pos hblank]
  rfl

theorem spaces (hsolid : Solid printed) (hne : printed ≠ [])
    (hquotes : Quotes double printed text) :
    Quotes double (List.replicate k ' ' ++ printed) (List.replicate k ' ' ++ text) := by
  cases k with
  | zero => exact hquotes
  | succ k =>
      refine blanks rfl (.inl rfl) ?_ hquotes
      intro rest c hc
      rw [List.length_replicate]
      exact quotedBlanks_spaces hc (hsolid.append hne) (by simp [hne])

/-- One line break is a space, and of several ones the first disappears. -/
theorem lines (hm : 0 < m) (hsolid : Solid printed) (hne : printed ≠ [])
    (hquotes : Quotes double printed text) :
    Quotes double (List.replicate n '\n' ++ lineBreak m ++ printed)
      (foldBreaks '\n' (List.replicate n '\n') ++ text) := by
  refine blanks (x := '\n') ?_ (.inr rfl) ?_ hquotes
  · cases n <;> rfl
  · intro rest c hc
    rw [List.append_assoc] at hc
    rw [quotedBlanks_lines hm hc (hsolid.append hne)]
    simp [lineBreak]

end Quotes

end NodeGraph.Yaml
