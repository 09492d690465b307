import Mathlib.Data.List.Basic
import NodeGraph.Proofs.Yaml.Cursor
import NodeGraph.Yaml.Scalar

/-!
# Plain scalars

A text without quotation marks consists of words with runs of spaces between them. It is written
word by word, with line breaks for some of the single spaces, and read back word by word.
-/

namespace NodeGraph.Yaml

open Printer

/-! ## Neighbours -/

theorem hasPair_eq_true_iff {p q : Char → Bool} {cs : List Char} :
    hasPair p q cs = true ↔ ∃ a b, [a, b] <:+: cs ∧ p a = true ∧ q b = true := by
  induction cs with
  | nil => simp [hasPair]
  | cons x cs ih =>
      cases cs with
      | nil =>
          have hnone : ∀ a b, ¬ [a, b] <:+: [x] := fun a b h => by simpa using h.length_le
          simp [hasPair, hnone]
      | cons y cs =>
          have hcons : hasPair p q (x :: y :: cs) = ((p x && q y) || hasPair p q (y :: cs)) := rfl
          have hpair : ∀ a b, [a, b] <:+: x :: y :: cs ↔ (a = x ∧ b = y) ∨ [a, b] <:+: y :: cs := by
            intro a b
            rw [List.infix_cons_iff]
            simp
          rw [hcons, Bool.or_eq_true, Bool.and_eq_true, ih]
          constructor
          · rintro (⟨hx, hy⟩ | ⟨a, b, hab, ha, hb⟩)
            · exact ⟨x, y, (hpair x y).mpr (.inl ⟨rfl, rfl⟩), hx, hy⟩
            · exact ⟨a, b, (hpair a b).mpr (.inr hab), ha, hb⟩
          · rintro ⟨a, b, hab, ha, hb⟩
            rcases (hpair a b).mp hab with ⟨rfl, rfl⟩ | hab
            · exact .inl ⟨ha, hb⟩
            · exact .inr ⟨a, b, hab, ha, hb⟩

theorem hasPair_eq_false_iff {p q : Char → Bool} {cs : List Char} :
    hasPair p q cs = false ↔ ∀ a b, [a, b] <:+: cs → p a = true → q b = false := by
  rw [← Bool.not_eq_true, hasPair_eq_true_iff]
  constructor
  · intro h a b hab ha
    rw [← Bool.not_eq_true]
    exact fun hb => h ⟨a, b, hab, ha, hb⟩
  · rintro h ⟨a, b, hab, ha, hb⟩
    rw [h a b hab ha] at hb
    cases hb

/-! ## Words -/

/-- A part of a plain text between spaces. -/
structure IsWord (w : List Char) : Prop where
  ne_nil : w ≠ []
  chars : ∀ c ∈ w, isPlainAscii c = true ∧ c ≠ ' '
  head : w.head? ≠ some '#'
  last : w.getLast? ≠ some ':'

/-- Words with runs of spaces between them. -/
inductive PlainText : List Char → Prop where
  | word {w : List Char} (hword : IsWord w) : PlainText w
  | spaces {w text : List Char} (k : ℕ) (hword : IsWord w) (htext : PlainText text) :
      PlainText (w ++ (List.replicate (k + 1) ' ' ++ text))

theorem isGap_of_word {w : List Char} (h : IsWord w) {c : Char} (hc : c ∈ w) : isGap c = false := by
  rw [isGap_eq_of_isPlainAscii (h.chars c hc).1, decide_eq_false (h.chars c hc).2]

theorem IsWord.exists_cons {w : List Char} (h : IsWord w) :
    ∃ x xs, w = x :: xs ∧ isPlainAscii x = true ∧ x ≠ ' ' ∧ x ≠ '#' := by
  obtain ⟨x, xs, rfl⟩ := List.exists_cons_of_ne_nil h.ne_nil
  have hx := h.chars x List.mem_cons_self
  exact ⟨x, xs, rfl, hx.1, hx.2, fun hsign => h.head (by rw [hsign]; rfl)⟩

/-- The conditions on a plain text that every rest of it behind a space shares. -/
structure IsPlain (cs : List Char) : Prop where
  ne_nil : cs ≠ []
  chars : ∀ c ∈ cs, isPlainAscii c = true
  head : cs.head? ≠ some ' ' ∧ cs.head? ≠ some '#'
  last : cs.getLast? ≠ some ' ' ∧ cs.getLast? ≠ some ':'
  colon : ¬ [':', ' '] <:+: cs
  sign : ¬ [' ', '#'] <:+: cs

/-- A list up to its first space. -/
theorem exists_word_append (cs : List Char) :
    ∃ w rest, cs = w ++ rest ∧ (∀ c ∈ w, c ≠ ' ') ∧ (rest = [] ∨ ∃ tail, rest = ' ' :: tail) := by
  induction cs with
  | nil => exact ⟨[], [], rfl, by simp, .inl rfl⟩
  | cons c cs ih =>
      by_cases hc : c = ' '
      · exact ⟨[], c :: cs, rfl, by simp, .inr ⟨cs, by rw [hc]⟩⟩
      · obtain ⟨w, rest, rfl, hw, hrest⟩ := ih
        exact ⟨c :: w, rest, rfl, List.forall_mem_cons.mpr ⟨hc, hw⟩, hrest⟩

/-- The characters at the start of a list that are equal to `x`. -/
theorem exists_replicate_append (x : Char) (cs : List Char) :
    ∃ k text, cs = List.replicate k x ++ text ∧ text.head? ≠ some x := by
  induction cs with
  | nil => exact ⟨0, [], rfl, by simp⟩
  | cons c cs ih =>
      by_cases hc : c = x
      · obtain ⟨k, text, rfl, htext⟩ := ih
        exact ⟨k + 1, text, by rw [hc]; rfl, htext⟩
      · exact ⟨0, c :: cs, rfl, by simpa using hc⟩

theorem takeWhile_replicate_append {x : Char} {ds : List Char} (k : ℕ) (hds : ds.head? ≠ some x) :
    (List.replicate k x ++ ds).takeWhile (· = x) = List.replicate k x := by
  rw [List.takeWhile_append_of_pos (by simp)]
  cases ds with
  | nil => simp
  | cons d ds => simp [show d ≠ x by rintro rfl; exact hds rfl]

/-- The first word, and what is behind the spaces after it. -/
theorem IsPlain.split {cs : List Char} (h : IsPlain cs) :
    IsWord cs ∨ ∃ w k text, cs = w ++ (List.replicate (k + 1) ' ' ++ text) ∧ IsWord w ∧
      IsPlain text := by
  obtain ⟨w, rest, rfl, hspace, hrest⟩ := exists_word_append cs
  have hne : w ≠ [] := by
    rintro rfl
    rcases hrest with rfl | ⟨tail, rfl⟩
    · exact h.ne_nil rfl
    · exact h.head.1 rfl
  have hhead : (w ++ rest).head? = w.head? := List.head?_append_of_ne_nil _ hne
  have hword : w.getLast? ≠ some ':' → IsWord w := fun hlast =>
    ⟨hne, fun c hc => ⟨h.chars c (List.mem_append_left _ hc), hspace c hc⟩, hhead ▸ h.head.2, hlast⟩
  rcases hrest with rfl | ⟨tail, rfl⟩
  · rw [List.append_nil] at h ⊢
    exact .inl (hword h.last.2)
  · obtain ⟨k, text, rfl, htext⟩ := exists_replicate_append ' ' tail
    have hsplit : w ++ ' ' :: (List.replicate k ' ' ++ text) =
        w ++ (List.replicate (k + 1) ' ' ++ text) := rfl
    rw [hsplit] at h ⊢
    have hcolon : w.getLast? ≠ some ':' := by
      intro hlast
      obtain ⟨front, rfl⟩ := List.getLast?_eq_some_iff.mp hlast
      exact h.colon ⟨front, List.replicate k ' ' ++ text, by simp [List.replicate_succ]⟩
    have hne' : text ≠ [] := by
      rintro rfl
      refine h.last.1 ?_
      rw [List.append_nil, List.replicate_succ', ← List.append_assoc, List.getLast?_concat]
    have hsuffix : text <:+ w ++ (List.replicate (k + 1) ' ' ++ text) :=
      (List.suffix_append _ _).trans (List.suffix_append _ _)
    have hlast := h.last
    rw [List.getLast?_append_of_ne_nil _ (by simp), List.getLast?_append_of_ne_nil _ hne'] at hlast
    refine .inr ⟨w, k, text, rfl, hword hcolon, hne', fun c hc => h.chars c (hsuffix.subset hc),
      ⟨htext, ?_⟩, hlast, fun hin => h.colon (hin.trans hsuffix.isInfix),
      fun hin => h.sign (hin.trans hsuffix.isInfix)⟩
    intro hsign
    obtain ⟨more, rfl⟩ := List.head?_eq_some_iff.mp hsign
    exact h.sign ⟨w ++ List.replicate k ' ', more, by simp [List.replicate_succ']⟩

theorem IsPlain.plainText {cs : List Char} (h : IsPlain cs) : PlainText cs := by
  induction hn : cs.length using Nat.strong_induction_on generalizing cs with
  | _ n ih =>
      rcases h.split with hword | ⟨w, k, text, rfl, hword, htext⟩
      · exact .word hword
      · refine .spaces k hword (ih text.length ?_ htext rfl)
        simp only [List.length_append, List.length_replicate] at hn
        omega

/-- What may be written plain are words with spaces between them. -/
theorem plainText_of_allowsPlain {cs : List Char} (hne : cs ≠ []) (h : allowsPlain cs = true) :
    PlainText cs := by
  simp only [allowsPlain, Bool.and_eq_true, List.all_eq_true, decide_eq_true_eq,
    Bool.not_eq_true', holdsIndicator, Bool.or_eq_false_iff, Bool.and_eq_false_iff,
    decide_eq_false_iff_not, hasPair_eq_false_iff] at h
  obtain ⟨⟨⟨⟨hchars, hhead⟩, hlast⟩, hstart⟩, ⟨hcolon, hend⟩, hsign⟩ := h
  obtain ⟨x, xs, rfl⟩ := List.exists_cons_of_ne_nil hne
  simp only [startsLikeIndicator, Bool.or_eq_false_iff, Bool.and_eq_false_iff,
    decide_eq_false_iff_not] at hstart
  have hfirst : x = ':' → isGap (xs.headD '\x00') = false := fun hx =>
    hstart.1.1.2.resolve_left (by simp [hx])
  refine IsPlain.plainText ⟨hne, hchars, ⟨hhead, ?_⟩, ⟨hlast, ?_⟩, ?_, ?_⟩
  · intro hx
    obtain rfl : x = '#' := by simpa using hx
    simp at hstart
  · intro hx
    rcases hend with hsingle | hcolonless
    · obtain rfl : xs = [] := by simpa using hsingle
      have hgap := hfirst (by simpa using hx)
      cases hgap
    · exact hcolonless hx
  · intro hin
    rcases List.infix_cons_iff.mp hin with hprefix | hin
    · obtain ⟨rfl, hrest⟩ := List.cons_prefix_cons.mp hprefix
      obtain ⟨more, rfl⟩ := hrest
      have hgap := hfirst rfl
      cases hgap
    · have hgap := hcolon ':' ' ' hin rfl
      cases hgap
  · intro hin
    have hgap := hsign ' ' '#' hin rfl
    simp at hgap

/-! ## Reading -/

section

variable {c : Cursor} {w rest printed text : List Char} {indent n k : ℕ}

theorem plainLength_word (hword : IsWord w) (hrest : plainLength false rest = 0) :
    plainLength false (w ++ rest) = w.length := by
  suffices ∀ w, (∀ c ∈ w, isGap c = false) → w.getLast? ≠ some ':' →
      plainLength false (w ++ rest) = w.length from
    this w (fun c hc => isGap_of_word hword hc) hword.last
  intro w hgap hlast
  induction w with
  | nil => exact hrest
  | cons x w ih =>
      obtain ⟨hx, hw⟩ := List.forall_mem_cons.mp hgap
      have hrec : plainLength false (w ++ rest) = w.length := by
        cases w with
        | nil => exact hrest
        | cons y w => exact ih hw (by simpa using hlast)
      -- a colon stops the scalar only before a gap, and is not the last character
      have hcolon : x = ':' → isGap ((w ++ rest).headD '\x00') = false := by
        rintro rfl
        cases w with
        | nil => exact absurd rfl hlast
        | cons y w => exact hw y List.mem_cons_self
      simp only [List.cons_append, plainLength, hx, Bool.false_and, Bool.or_false, Bool.false_or,
        List.length_cons, hrec]
      split
      · rename_i hstop
        simp only [Bool.and_eq_true, decide_eq_true_eq] at hstop
        rw [hcolon hstop.1] at hstop
        cases hstop.2
      · rfl

/-- What ends a plain scalar in a block: a colon before a gap, or a line that is indented less. -/
inductive EndsPlain (indent : ℕ) : List Char → Prop where
  | colon {g : Char} {rest : List Char} (hgap : isGap g = true) :
      EndsPlain indent (':' :: g :: rest)
  | line {column : ℕ} {rest : List Char} (hcolumn : column < indent) (hrest : Solid rest) :
      EndsPlain indent (lineBreak column ++ rest)

theorem EndsPlain.plainLength_eq_zero (h : EndsPlain indent rest) : plainLength false rest = 0 := by
  cases h with
  | colon hgap => simp [plainLength, hgap]
  | line => simp [lineBreak, plainLength, isGap, isSpaceBreakOrEnd, isBreakOrEnd, isBreak]

theorem Solid.not_break (h : Solid rest) : ∀ x, rest.head? = some x → isBreak x = false :=
  fun x hx => (isGap_eq_false_iff.mp (h x hx)).2.2.1

theorem Solid.not_space (h : Solid rest) :
    ∀ x, rest.head? = some x → decide (x = ' ') = false :=
  fun x hx => decide_eq_false (isGap_eq_false_iff.mp (h x hx)).2.1

/-- Spaces within a line stand for themselves. -/
theorem plainBlanks_spaces (h : c.rest = List.replicate k ' ' ++ rest) (hrest : Solid rest) :
    plainBlanks c = (List.replicate k ' ', false, c.skip k) := by
  have hskip : (c.skip k).rest = rest := Cursor.rest_skip_replicate h
  have hbreak : (c.skip k).takeBreak = (none, c.skip k) :=
    Cursor.takeBreak_of_head (by rw [hskip]; exact hrest.not_break)
  simp only [plainBlanks, Cursor.span_replicate h rfl hrest.not_space, hbreak]

/-- The cursor behind a line break, and what the break stands for if the scalar goes on. -/
theorem plainBlanks_line (h : c.rest = lineBreak n ++ rest) (hrest : Solid rest) :
    (plainBlanks c).2 = (true, c.skip (n + 1)) ∧ (0 < n → (plainBlanks c).1 = [' ']) := by
  have hhead : ∀ x, (lineBreak n ++ rest).head? = some x → decide (x = ' ') = false := by
    intro x hx
    obtain rfl : '\n' = x := by simpa [lineBreak] using hx
    rfl
  have hspan : c.span (· = ' ') = ([], c.skip 0) :=
    Cursor.span_of_eq (h.trans (List.nil_append _).symm) (by simp) hhead
  have hbreak : (c.skip 0).takeBreak = (some '\n', c.next) := Cursor.takeBreak_of_newline h
  have hnext : c.next.rest = List.replicate n ' ' ++ rest := by rw [Cursor.rest_next, h]; rfl
  have hspaces : c.next.skipWhile (· = ' ') = c.skip (n + 1) :=
    Cursor.skipWhile_replicate hnext rfl hrest.not_space
  have hafter : (c.skip (n + 1)).takeBreak = (none, c.skip (n + 1)) := by
    refine Cursor.takeBreak_of_head ?_
    have hskip := Cursor.rest_skip_of_eq h
    rw [lineBreak, List.length_cons, List.length_replicate] at hskip
    rw [hskip]
    exact hrest.not_break
  cases n with
  | zero =>
      refine ⟨?_, fun hpos => absurd hpos (lt_irrefl 0)⟩
      simp only [plainBlanks, hspan, hbreak]
      split
      · rfl
      · simp only [plainBreaks, hspaces, hafter]
  | succ n =>
      have hhead : c.next.head = ' ' := Cursor.head_of_eq hnext
      have hseparator : c.next.atSeparator = false :=
        Cursor.atSeparator_of_head (by rw [hhead]; decide) (by rw [hhead]; decide)
      simp only [plainBlanks, hspan, hbreak, hseparator, plainBreaks, hspaces, hafter]
      exact ⟨rfl, fun _ => rfl⟩

/-- Reading one word and the blanks behind it. -/
theorem plain_word {fuel : ℕ} {blanks more : List Char} {broke broke' : Bool} {c' : Cursor}
    (hword : IsWord w) (h : c.rest = w ++ rest) (hrest : plainLength false rest = 0)
    (hblanks : plainBlanks (c.skip w.length) = (more, broke', c')) :
    plain false indent (fuel + 1) blanks broke c =
      if more.isEmpty || c'.head = '#' || decide (c'.column < indent) then
        (blanks ++ w, broke', c')
      else
        ((blanks ++ w) ++ (plain false indent fuel more broke' c').1,
          (plain false indent fuel more broke' c').2) := by
  obtain ⟨x, xs, rfl, _, _, hsign⟩ := hword.exists_cons
  have hhead : c.head ≠ '#' := by rwa [Cursor.head_of_eq h]
  have hlength : plainLength false c.rest = (x :: xs).length := by
    rw [h, plainLength_word hword hrest]
  have htake : c.rest.take (x :: xs).length = x :: xs := by rw [h, List.take_left]
  have hpos : (x :: xs).length ≠ 0 := by simp
  rw [plain]
  simp only [if_neg hhead, hlength, htake, if_neg hpos, hblanks, Bool.not_false, Bool.true_and]

/-- How a plain text is read at the start of a line's text, or behind other words. -/
structure ReadsPlain (indent : ℕ) (printed text : List Char) : Prop where
  start : ∃ x xs, printed = x :: xs ∧ isPlainAscii x = true ∧ x ≠ ' ' ∧ x ≠ '#'
  reads : ∀ {rest : List Char} {c : Cursor} (fuel : ℕ) (blanks : List Char) (broke : Bool),
    EndsPlain indent rest → c.rest = printed ++ rest → indent ≤ c.column + 1 →
      printed.length ≤ fuel →
      plain false indent fuel blanks broke c =
        (blanks ++ text, (plainBlanks (c.skip printed.length)).2)

theorem ReadsPlain.solid (h : ReadsPlain indent printed text) : Solid (printed ++ rest) := by
  obtain ⟨x, xs, rfl, hx, hspace, _⟩ := h.start
  intro y hy
  obtain rfl : x = y := by simpa using hy
  rw [isGap_eq_of_isPlainAscii hx, decide_eq_false hspace]

/-- A scalar ends behind its last word. -/
theorem IsWord.readsPlain (hword : IsWord w) : ReadsPlain indent w w := by
  refine ⟨hword.exists_cons, ?_⟩
  intro rest c fuel blanks broke hends h hcolumn hfuel
  obtain ⟨x, xs, hw, _⟩ := hword.exists_cons
  obtain ⟨fuel, rfl⟩ : ∃ m, fuel = m + 1 := by
    rw [hw, List.length_cons] at hfuel
    exact ⟨fuel - 1, by omega⟩
  have hskip := Cursor.rest_skip_of_eq h
  obtain ⟨more, broke', c', hblanks⟩ : ∃ more broke' c',
    plainBlanks (c.skip w.length) = (more, broke', c') := ⟨_, _, _, rfl⟩
  rw [plain_word hword h hends.plainLength_eq_zero hblanks, hblanks, if_pos]
  cases hends with
  | @colon g rest hgap =>
      have hsolid : Solid (':' :: g :: rest) := by
        intro y hy
        obtain rfl : ':' = y := by simpa using hy
        rfl
      rw [plainBlanks_spaces (k := 0) hskip hsolid, Prod.mk.injEq] at hblanks
      simp [← hblanks.1]
  | @line column rest hcolumn hrest =>
      have hafter := (plainBlanks_line hskip hrest).1
      rw [hblanks, Cursor.skip_lineBreak hskip, Prod.mk.injEq] at hafter
      simp [hafter.2, hcolumn]

/-- Spaces within a line are part of the text. -/
theorem ReadsPlain.spaces (hword : IsWord w) (htext : ReadsPlain indent printed text) :
    ReadsPlain indent (w ++ (List.replicate (k + 1) ' ' ++ printed))
      (w ++ (List.replicate (k + 1) ' ' ++ text)) := by
  obtain ⟨x, xs, hw, hx⟩ := hword.exists_cons
  refine ⟨⟨x, xs ++ (List.replicate (k + 1) ' ' ++ printed), by rw [hw]; rfl, hx⟩, ?_⟩
  intro rest c fuel blanks broke hends h hcolumn hfuel
  simp only [List.append_assoc] at h
  simp only [List.length_append, List.length_replicate] at hfuel ⊢
  obtain ⟨fuel, rfl⟩ : ∃ m, fuel = m + 1 := ⟨fuel - 1, by omega⟩
  have hskip := Cursor.rest_skip_of_eq h
  have hcursor := Cursor.skip_of_isPlainAscii h fun y hy => (hword.chars y hy).1
  have hafter := Cursor.skip_spaces hskip
  have hstop : plainLength false (List.replicate (k + 1) ' ' ++ (printed ++ rest)) = 0 := by
    simp [List.replicate_succ, plainLength, isGap, isSpaceBreakOrEnd]
  rw [plain_word hword h hstop (plainBlanks_spaces hskip htext.solid), if_neg]
  · rw [htext.reads fuel _ false hends (by rw [hafter])
      (by rw [hafter]; dsimp only; rw [hcursor]; dsimp only; omega) (by omega)]
    simp only [List.append_assoc, ← Cursor.skip_add, Nat.add_assoc]
  · obtain ⟨y, ys, rfl, _, _, hsign⟩ := htext.start
    rw [hafter, hcursor]
    simp only [List.replicate_succ, Cursor.head, List.cons_append, List.headD_cons,
      List.isEmpty_cons, Bool.false_or, Bool.or_eq_true, decide_eq_true_eq]
    rintro (heq | hless)
    · exact hsign (of_decide_eq_true heq)
    · omega

/-- A line break stands for a space. -/
theorem ReadsPlain.line (hword : IsWord w) (htext : ReadsPlain indent printed text)
    (hpos : 0 < n) (hn : indent ≤ n) :
    ReadsPlain indent (w ++ (lineBreak n ++ printed)) (w ++ ' ' :: text) := by
  obtain ⟨x, xs, hw, hx⟩ := hword.exists_cons
  refine ⟨⟨x, xs ++ (lineBreak n ++ printed), by rw [hw]; rfl, hx⟩, ?_⟩
  intro rest c fuel blanks broke hends h hcolumn hfuel
  simp only [List.append_assoc] at h
  simp only [List.length_append, length_lineBreak] at hfuel ⊢
  obtain ⟨fuel, rfl⟩ : ∃ m, fuel = m + 1 := ⟨fuel - 1, by omega⟩
  have hskip := Cursor.rest_skip_of_eq h
  have hafter := Cursor.skip_lineBreak hskip
  obtain ⟨hcursor, hblank⟩ := plainBlanks_line hskip htext.solid
  have hblanks : plainBlanks (c.skip w.length) = ([' '], true, (c.skip w.length).skip (n + 1)) := by
    rw [← hcursor, ← hblank hpos]
  have hstop : plainLength false (lineBreak n ++ (printed ++ rest)) = 0 := by
    simp [lineBreak, plainLength, isGap, isSpaceBreakOrEnd, isBreakOrEnd, isBreak]
  rw [plain_word hword h hstop hblanks, if_neg]
  · rw [htext.reads fuel _ true hends (by rw [hafter])
      (by rw [hafter]; exact hn.trans (Nat.le_succ n)) (by omega)]
    simp only [List.append_assoc, List.singleton_append, ← Cursor.skip_add, Nat.add_assoc]
  · obtain ⟨y, ys, rfl, _, _, hsign⟩ := htext.start
    rw [hafter]
    simp only [Cursor.head, List.cons_append, List.headD_cons, List.isEmpty_cons, Bool.false_or,
      Bool.or_eq_true, decide_eq_true_eq]
    rintro (heq | hless)
    · exact hsign (of_decide_eq_true heq)
    · omega

end

/-! ## Writing -/

section

variable {split : Bool} {indent column : ℕ} {w text : List Char}

/-- Words are written as they are. -/
theorem plainFrom_word (hw : ∀ c ∈ w, c ≠ ' ') :
    plainFrom split indent column (w ++ text) =
      w ++ plainFrom split indent (column + w.length) text := by
  induction w generalizing column with
  | nil => rfl
  | cons c w ih =>
      obtain ⟨hc, hw⟩ := List.forall_mem_cons.mp hw
      rw [List.cons_append, plainFrom, ih hw, List.length_cons, Nat.add_right_comm, Nat.add_assoc]
      · rfl
      all_goals simp [hc]

/-- A single space may become a line break; several ones are written as they are. -/
theorem plainFrom_spaces (split : Bool) (indent column k : ℕ) (htext : text.head? ≠ some ' ') :
    plainFrom split indent column (List.replicate (k + 1) ' ' ++ text) =
        List.replicate (k + 1) ' ' ++ plainFrom split indent (column + (k + 1)) text ∨
      k = 0 ∧ plainFrom split indent column (List.replicate (k + 1) ' ' ++ text) =
        lineBreak indent ++ plainFrom split indent indent text := by
  cases k with
  | zero =>
      show plainFrom split indent column (' ' :: text) = _ ∨ _ ∧ plainFrom _ _ _ (' ' :: text) = _
      rw [plainFrom]
      · split
        · exact .inr ⟨rfl, rfl⟩
        · exact .inl rfl
      · rintro rest rfl
        exact htext rfl
  | succ k =>
      have htaken : (List.replicate k ' ' ++ text).takeWhile (· = ' ') = List.replicate k ' ' :=
        takeWhile_replicate_append k htext
      refine .inl ?_
      show plainFrom split indent column (' ' :: ' ' :: (List.replicate k ' ' ++ text)) = _
      rw [plainFrom]
      simp only [htaken, List.length_replicate]
      rw [List.take_left' (by simp), List.drop_left' (by simp)]
      simp only [List.replicate_succ, List.cons_append]
      rw [show column + 2 + k = column + (k + 1 + 1) by omega]

theorem PlainText.head_ne (h : PlainText text) : text.head? ≠ some ' ' := by
  have hword : ∀ {w more : List Char}, IsWord w → (w ++ more).head? ≠ some ' ' := by
    intro w more hword
    obtain ⟨x, xs, rfl, _, hx, _⟩ := hword.exists_cons
    simpa using hx
  cases h with
  | word hw => exact List.append_nil text ▸ hword hw
  | spaces k hw _ => exact hword hw

/-- A plain text is read back as it was before its lines were broken. -/
theorem PlainText.readsPlain {cs : List Char} (h : PlainText cs) (hpos : 0 < indent) {outer : ℕ}
    (houter : outer ≤ indent) (column : ℕ) :
    ReadsPlain outer (plainFrom split indent column cs) cs := by
  induction h generalizing column with
  | @word w hword =>
      have hwritten : plainFrom split indent column (w ++ []) = w ++ _ :=
        plainFrom_word fun c hc => (hword.chars c hc).2
      rw [List.append_nil] at hwritten
      rw [hwritten, plainFrom, List.append_nil]
      exact hword.readsPlain
  | @spaces w text k hword htext ih =>
      rw [plainFrom_word fun c hc => (hword.chars c hc).2]
      rcases plainFrom_spaces split indent (column + w.length) k htext.head_ne with
        hsame | ⟨rfl, hline⟩
      · rw [hsame]
        exact .spaces hword (ih _)
      · rw [hline]
        exact .line hword (ih _) hpos houter

end

end NodeGraph.Yaml
