import NodeGraph.Proofs.Yaml.Escape

/-!
# Texts between quotation marks

A text between single quotation marks is always read back. Between double ones it is read back
except where a line is broken right behind an escape and, since the new line starts too far to the
right, a second time at the space that follows: there the two backslashes are taken for one escape.
-/

namespace NodeGraph.Yaml

open Printer

variable {split : Bool} {indent column : ℕ} {cs : List Char}

/-! ## Single marks -/

/-- The conditions on a text between single marks, in a form that its rests share. -/
structure IsSingle (cs : List Char) : Prop where
  chars : ∀ c ∈ cs, isPlainAscii c = true ∨ c = '\n'
  leading : ¬ ['\n', ' '] <:+: cs
  trailing : ¬ [' ', '\n'] <:+: cs

theorem isSingle_of_allowsSingle (h : allowsSingle cs = true) : IsSingle cs := by
  simp only [allowsSingle, Bool.and_eq_true, Bool.not_eq_true', List.all_eq_true, Bool.or_eq_true,
    decide_eq_true_eq, hasPair_eq_false_iff] at h
  obtain ⟨⟨hchars, hleading⟩, htrailing⟩ := h
  refine ⟨hchars, fun hin => ?_, fun hin => ?_⟩
  · exact absurd (hleading '\n' ' ' hin rfl) (by decide)
  · exact absurd (htrailing ' ' '\n' hin rfl) (by decide)

theorem IsSingle.suffix {ds : List Char} (h : IsSingle cs) (hds : ds <:+ cs) : IsSingle ds :=
  ⟨fun c hc => h.chars c (hds.subset hc), fun hin => h.leading (hin.trans hds.isInfix),
    fun hin => h.trailing (hin.trans hds.isInfix)⟩

theorem IsSingle.tail {c : Char} (h : IsSingle (c :: cs)) : IsSingle cs :=
  h.suffix (List.suffix_cons c cs)

/-- The written text starts with a mark or with the first character. -/
theorem solid_singleFrom {first : Bool} (h : IsSingle cs) (hspace : cs.head? ≠ some ' ')
    (hbreak : cs.head? ≠ some '\n') :
    Solid (singleFrom split indent first column cs ++ ['\x27']) := by
  cases cs with
  | nil =>
      intro x hx
      obtain rfl : '\x27' = x := by simpa [singleFrom] using hx
      rfl
  | cons c cs =>
      have hc : c ≠ ' ' ∧ c ≠ '\n' := ⟨by simpa using hspace, by simpa using hbreak⟩
      have hplain := (h.chars c List.mem_cons_self).resolve_right hc.2
      intro x hx
      have hsame : x = c := by
        rw [singleFrom] at hx
        · split at hx <;> simpa using hx.symm
        all_goals simp [hc]
      rw [hsame, isGap_eq_of_isPlainAscii hplain, decide_eq_false hc.1]

theorem concat_ne_nil {xs : List Char} {x : Char} : xs ++ [x] ≠ [] := by simp

/-- The run of a character at the start of a list. -/
theorem takeWhile_run (x : Char) (cs : List Char) :
    ∃ n ds, cs = List.replicate n x ++ ds ∧ (cs.takeWhile (· = x)).length = n ∧
      ds.head? ≠ some x := by
  obtain ⟨n, ds, rfl, hds⟩ := exists_replicate_append x cs
  exact ⟨n, ds, rfl, by rw [takeWhile_replicate_append n hds, List.length_replicate], hds⟩

theorem foldBreaks_succ (n : ℕ) :
    foldBreaks '\n' (List.replicate (n + 1) '\n') = List.replicate (n + 1) '\n' := rfl

theorem head_ne_of_infix {x y : Char} (h : ¬ [x, y] <:+: cs) (front : List Char) {ds : List Char}
    (hcs : cs = front ++ x :: ds) : ds.head? ≠ some y := by
  intro hhead
  obtain ⟨ds', rfl⟩ := List.head?_eq_some_iff.mp hhead
  exact h ⟨front, ds', by rw [hcs]; simp⟩

/-- A text between single marks is read back. -/
theorem quotes_singleFrom {first : Bool} (h : IsSingle cs) (hindent : 0 < indent) :
    Quotes false (singleFrom split indent first column cs ++ ['\x27']) cs := by
  fun_induction singleFrom split indent first column cs with
  | case1 => exact Quotes.close_single
  | case2 _ _ rest breaks ih =>
      -- line breaks: the first one is written once more than the text has it
      obtain ⟨n, ds, hrest, hn, hds⟩ := takeWhile_run '\n' rest
      have hbreaks : breaks = n := hn
      clear_value breaks
      subst hbreaks hrest
      have hrest : '\n' :: (List.replicate breaks '\n' ++ ds) =
        List.replicate (breaks + 1) '\n' ++ ds := rfl
      have hspace : ds.head? ≠ some ' ' := head_ne_of_infix h.leading (List.replicate breaks '\n')
        (by rw [hrest, List.replicate_succ']; simp)
      have hsuffix : IsSingle ds := h.suffix (hrest ▸ List.suffix_append _ _)
      rw [List.drop_left' (by simp)] at ih ⊢
      have hlines := (ih hsuffix).lines (n := breaks + 1) hindent
        (solid_singleFrom hsuffix hspace hds) concat_ne_nil
      rw [foldBreaks_succ, ← hrest] at hlines
      simpa [List.replicate_succ] using hlines
  | case3 _ column rest spaces ih =>
      obtain ⟨n, ds, hrest, hn, hds⟩ := takeWhile_run ' ' rest
      have hspaces : spaces = n := hn
      clear_value spaces
      subst hspaces hrest
      have hrest : ' ' :: ' ' :: (List.replicate spaces ' ' ++ ds) =
        List.replicate (spaces + 2) ' ' ++ ds := rfl
      have hbreak : ds.head? ≠ some '\n' :=
        head_ne_of_infix h.trailing (List.replicate (spaces + 1) ' ')
          (by rw [hrest, List.replicate_succ']; simp)
      have hsuffix : IsSingle ds := h.suffix (hrest ▸ List.suffix_append _ _)
      rw [List.drop_left' (by simp)] at ih ⊢
      rw [List.take_left' (by simp)]
      have hspaces := (ih hsuffix).spaces (k := spaces + 2) (solid_singleFrom hsuffix hds hbreak)
        concat_ne_nil
      simpa [List.replicate_succ] using hspaces
  | case4 _ column rest hspace hsplit ih =>
      have hhead : rest.head? ≠ some ' ' := fun hhead =>
        (List.head?_eq_some_iff.mp hhead).elim hspace
      have hbreak : rest.head? ≠ some '\n' := head_ne_of_infix h.trailing [] rfl
      have hline := (ih h.tail).lines (n := 0) hindent (solid_singleFrom h.tail hhead hbreak)
        concat_ne_nil
      simpa [foldBreaks] using hline
  | case5 _ column rest hspace hsplit ih =>
      have hhead : rest.head? ≠ some ' ' := fun hhead =>
        (List.head?_eq_some_iff.mp hhead).elim hspace
      have hbreak : rest.head? ≠ some '\n' := head_ne_of_infix h.trailing [] rfl
      exact (ih h.tail).spaces (k := 1) (solid_singleFrom h.tail hhead hbreak) concat_ne_nil
  | case6 _ column rest _ _ _ ih => exact (ih h.tail).twice
  | case7 _ column c rest hbreak _ hspace hmark ih =>
      have hplain := (h.chars c List.mem_cons_self).resolve_right hbreak
      exact (ih h.tail).char hplain hspace hmark (by simp)

/-! ## Double marks -/

theorem escapeOf?_eq_none {c : Char} (h : escapeOf? c = none) :
    isPlainAscii c = true ∧ c ≠ '\x22' ∧ c ≠ '\\' := by
  unfold escapeOf? at h
  split at h
  · cases h
  · rename_i hletter
    split at h
    · rename_i hplain
      refine ⟨hplain, ?_, ?_⟩ <;>
      · rintro rfl
        cases hletter
    · split at h
      · cases h
      · split at h <;> cases h

theorem exists_escapeOf? {c : Char} {code : List Char} (h : escapeOf? c = some code) :
    ∃ tail, code = '\\' :: tail :=
  (exists_escape h).imp fun _ htail => htail.1

/-- No space behind an escape is followed by more text, the escape of the first character apart. -/
def SpacesLast (first : Bool) (cs : List Char) : Prop :=
  ∀ c d, [c, ' ', d] <:+: (if first then cs.tail else cs) → escapeOf? c = none

theorem SpacesLast.tail {first : Bool} {c : Char} (h : SpacesLast first (c :: cs)) :
    SpacesLast false cs := by
  intro e d hin
  refine h e d ?_
  cases first
  · exact hin.trans (List.suffix_cons c cs).isInfix
  · exact hin

/-- Some text is read up to the closing mark, spaces in front included, and it is the text that was
written unless lines are broken far to the right at a space behind an escape. -/
def ReadsDouble (split : Bool) (indent : ℕ) (first : Bool) (cs printed : List Char) : Prop :=
  ∃ text, (∀ k, Quotes true (List.replicate k ' ' ++ printed) (List.replicate k ' ' ++ text)) ∧
    ((split = true → width ≤ indent → SpacesLast first cs) → text = cs)

variable {printed text : List Char} {first afterEscape : Bool} {c : Char}

theorem solid_cons (hplain : isPlainAscii c = true) (hspace : c ≠ ' ') : Solid (c :: cs) := by
  intro x hx
  obtain rfl : c = x := by simpa using hx
  rw [isGap_eq_of_isPlainAscii hplain, decide_eq_false hspace]

theorem solid_backslash : Solid ('\\' :: cs) := solid_cons rfl (by decide)

theorem ReadsDouble.of_solid (hsolid : Solid printed) (hne : printed ≠ [])
    (hquotes : Quotes true printed text)
    (heq : (split = true → width ≤ indent → SpacesLast first cs) → text = cs) :
    ReadsDouble split indent first cs printed :=
  ⟨text, fun _ => Quotes.spaces hsolid hne hquotes, heq⟩

theorem solid_doubleFrom (hspace : cs.head? ≠ some ' ') :
    Solid (doubleFrom split indent first afterEscape column cs ++ ['\x22']) := by
  cases cs with
  | nil => exact solid_cons rfl (by decide)
  | cons c cs =>
      rw [doubleFrom]
      cases hcode : escapeOf? c with
      | some code =>
          obtain ⟨tail, rfl⟩ := exists_escapeOf? hcode
          dsimp only
          split <;> exact solid_backslash
      | none =>
          dsimp only
          split
          · exact solid_backslash
          · exact solid_cons (escapeOf?_eq_none hcode).1 (by simpa using hspace)

theorem escapedBreak_of_ne (indent : ℕ) (hspace : cs.head? ≠ some ' ') :
    escapedBreak indent cs = '\\' :: lineBreak indent ∧ breakColumn indent cs = indent := by
  simp [escapedBreak, breakColumn, hspace]

/-- Behind the backslash that is put before a space at the start of a line: if the line is broken
there once more, the backslash is taken for an escaped one and the break for a space. -/
theorem quotes_openBackslash {rest : List Char} (hindent : 0 < indent)
    (h : ∀ afterEscape column, ReadsDouble split indent false rest
      (doubleFrom split indent false afterEscape column rest ++ ['\x22'])) :
    ∃ text, Quotes true ('\\' :: (doubleFrom split indent false true (indent + 1) (' ' :: rest) ++
        ['\x22'])) text ∧
      ((split = true → width ≤ indent → rest = []) →
        (split = true → width ≤ indent → SpacesLast false rest) → text = ' ' :: rest) := by
  have hnone : escapeOf? ' ' = none := rfl
  rw [doubleFrom, hnone]
  dsimp only
  split
  · rename_i hbreak
    simp only [Bool.and_eq_true, Bool.not_eq_true', List.isEmpty_eq_false_iff] at hbreak
    obtain ⟨⟨⟨hsplit, _⟩, hne⟩, _, hwidth⟩ := hbreak
    obtain ⟨text, hquotes, _⟩ := h false (breakColumn indent (' ' :: rest) + 1)
    have hspace := (hquotes 0).space
    have hline := Quotes.lines (n := 0) hindent solid_backslash (by simp) hspace
    have hslash := Quotes.escape (show escapeOf? '\\' = some ['\\', '\\'] from rfl) hline
    refine ⟨'\\' :: ' ' :: ' ' :: text, ?_, fun hlast => absurd (hlast hsplit (by omega)) hne⟩
    simpa [escapedBreak, foldBreaks] using hslash
  · obtain ⟨text, hquotes, heq⟩ := h false (indent + 1 + 1)
    exact ⟨' ' :: text, (hquotes 0).space, fun _ hlast => by rw [heq hlast]⟩

theorem ReadsDouble.escape {code : List Char} (hcode : escapeOf? c = some code)
    (hquotes : Quotes true printed text)
    (heq : (split = true → width ≤ indent → SpacesLast first (c :: cs)) → text = cs) :
    ReadsDouble split indent first (c :: cs) (code ++ printed) := by
  obtain ⟨tail, htail⟩ := exists_escapeOf? hcode
  refine .of_solid ?_ (by simp [htail]) (hquotes.escape hcode) fun hlast => by rw [heq hlast]
  rw [htail]
  exact solid_backslash

/-- An escape with a line break behind it. -/
theorem readsDouble_brokenEscape {code rest : List Char} (hindent : 0 < indent)
    (hcode : escapeOf? c = some code)
    (h : ∀ ds, ds <:+ rest → ∀ afterEscape column, ReadsDouble split indent false ds
      (doubleFrom split indent false afterEscape column ds ++ ['\x22'])) :
    ReadsDouble split indent false (c :: rest)
      (code ++ escapedBreak indent rest ++
        doubleFrom split indent false true (breakColumn indent rest) rest ++ ['\x22']) := by
  by_cases hspace : rest.head? = some ' '
  · obtain ⟨rest', rfl⟩ := List.head?_eq_some_iff.mp hspace
    obtain ⟨text, hquotes, heq⟩ := quotes_openBackslash hindent
      (h rest' (List.suffix_cons ' ' rest'))
    have hread : ReadsDouble split indent false (c :: ' ' :: rest') _ :=
      .escape hcode (hquotes.fold hindent solid_backslash (by simp)) fun hlast => ?_
    · simpa [escapedBreak, breakColumn] using hread
    · refine heq (fun hsplit hwidth => ?_) fun hsplit hwidth => (hlast hsplit hwidth).tail.tail
      -- text behind the space contradicts `SpacesLast`
      cases rest' with
      | nil => rfl
      | cons d rest' =>
          have hnone := hlast hsplit hwidth c d ⟨[], rest', rfl⟩
          rw [hcode] at hnone
          cases hnone
  · obtain ⟨text, hquotes, heq⟩ := h rest List.suffix_rfl true indent
    obtain ⟨hescaped, hcolumn⟩ := escapedBreak_of_ne indent hspace
    have hread : ReadsDouble split indent false (c :: rest) _ :=
      .escape hcode ((hquotes 0).fold hindent (solid_doubleFrom hspace) concat_ne_nil)
        fun hlast => heq fun hsplit hwidth => (hlast hsplit hwidth).tail
    rw [hescaped, hcolumn]
    simpa using hread

/-- A character that needs no escape. -/
theorem ReadsDouble.plain (hcode : escapeOf? c = none)
    (h : ReadsDouble split indent false cs printed) :
    ReadsDouble split indent first (c :: cs) (c :: printed) := by
  obtain ⟨hplain, hmark, hslash⟩ := escapeOf?_eq_none hcode
  obtain ⟨text, hquotes, heq⟩ := h
  have heq' : (split = true → width ≤ indent → SpacesLast first (c :: cs)) →
      c :: text = c :: cs := fun hlast => by
    rw [heq fun hsplit hwidth => (hlast hsplit hwidth).tail]
  by_cases hspace : c = ' '
  · subst hspace
    refine ⟨' ' :: text, fun k => ?_, heq'⟩
    have hread := hquotes (k + 1)
    simpa [List.replicate_succ'] using hread
  · have hread : Quotes true (c :: printed) (c :: text) :=
      (hquotes 0).char hplain hspace hmark fun _ => hslash
    exact .of_solid (solid_cons hplain hspace) (by simp) hread heq'

/-- A character that needs no escape, with an escaped line break before it. -/
theorem ReadsDouble.brokenPlain (hindent : 0 < indent) (hcode : escapeOf? c = none)
    (h : ReadsDouble split indent false cs printed) :
    ReadsDouble split indent first (c :: cs)
      (escapedBreak indent (c :: cs) ++ c :: printed) := by
  obtain ⟨hplain, hmark, hslash⟩ := escapeOf?_eq_none hcode
  obtain ⟨text, hquotes, heq⟩ := h
  have hquoted : Quotes true (escapedBreak indent (c :: cs) ++ c :: printed) (c :: text) := by
    by_cases hspace : c = ' '
    · subst hspace
      have hread := (hquotes 0).space.fold hindent solid_backslash (by simp)
      simpa [escapedBreak] using hread
    · have hread : Quotes true (c :: printed) (c :: text) :=
        (hquotes 0).char hplain hspace hmark fun _ => hslash
      rw [(escapedBreak_of_ne indent (by simpa using hspace)).1]
      exact hread.fold hindent (solid_cons hplain hspace) (by simp)
  refine .of_solid solid_backslash (by simp [escapedBreak]) hquoted fun hlast => ?_
  rw [heq fun hsplit hwidth => (hlast hsplit hwidth).tail]

/-- A text between double marks is read, as it was where `SpacesLast` holds or the lines do not
start too far to the right. -/
theorem readsDouble_doubleFrom (hindent : 0 < indent) :
    ReadsDouble split indent first cs
      (doubleFrom split indent first afterEscape column cs ++ ['\x22']) := by
  induction hn : cs.length using Nat.strong_induction_on
    generalizing cs first afterEscape column with
  | _ n ih =>
      cases cs with
      | nil =>
          exact .of_solid (solid_doubleFrom (by simp)) concat_ne_nil Quotes.close_double fun _ => rfl
      | cons c rest =>
          have hsuffix : ∀ ds, ds <:+ rest → ∀ afterEscape column, ReadsDouble split indent false ds
              (doubleFrom split indent false afterEscape column ds ++ ['\x22']) := by
            intro ds hds _ _
            have hlength := hds.length_le
            rw [List.length_cons] at hn
            exact ih ds.length (by omega) rfl
          have hrest := hsuffix rest List.suffix_rfl
          rw [doubleFrom]
          cases hcode : escapeOf? c with
          | some code =>
              dsimp only
              split
              · rename_i hbreak
                simp only [Bool.and_eq_true, Bool.not_eq_true'] at hbreak
                obtain ⟨⟨⟨_, rfl⟩, _⟩, _⟩ := hbreak
                exact readsDouble_brokenEscape hindent hcode hsuffix
              · obtain ⟨text, hquotes, heq⟩ := hrest true (column + code.length)
                have hread : ReadsDouble split indent first (c :: rest) _ :=
                  .escape hcode (hquotes 0) fun hlast =>
                    heq fun hsplit hwidth => (hlast hsplit hwidth).tail
                simpa using hread
          | none =>
              dsimp only
              split
              · have hread : ReadsDouble split indent first (c :: rest) _ :=
                  (hrest false (breakColumn indent (c :: rest) + 1)).brokenPlain hindent hcode
                simpa using hread
              · exact (hrest false (column + 1)).plain hcode

end NodeGraph.Yaml
