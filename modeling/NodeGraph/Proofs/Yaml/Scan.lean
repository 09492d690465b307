import NodeGraph.Proofs.Yaml.Quoting
import NodeGraph.Yaml.Lexer

/-!
# Single tokens of block collections

What one step of the lexer does at each token that a written document has: the indicators of block
collections, scalars and the empty brackets, and the blanks and line breaks before them.
-/

namespace NodeGraph.Yaml

open Printer

namespace Lexer

variable {l : Lexer} {rest : List Char} {n : ℕ}

/-! ## Before a token -/

/-- Text at which a token starts. -/
structure Opens (cs : List Char) : Prop where
  solid : Solid cs
  sign : cs.head? ≠ some '#'

theorem Opens.head_ne {c : Cursor} (h : Opens c.rest) : c.head ≠ '#' := by
  rw [Cursor.head]
  cases hrest : c.rest with
  | nil => decide
  | cons x xs =>
      rintro rfl
      exact h.sign (by rw [hrest]; rfl)

theorem skipToToken_spaces (fuel : ℕ) (hrest : l.cursor.rest = List.replicate n ' ' ++ rest)
    (h : Opens rest) : skipToToken (fuel + 1) l = { l with cursor := l.cursor.skip n } := by
  have hspaces : l.cursor.skipWhile (· = ' ') = l.cursor.skip n :=
    Cursor.skipWhile_replicate hrest rfl h.solid.not_space
  have hskip : (l.cursor.skip n).rest = rest := Cursor.rest_skip_replicate hrest
  rw [← hskip] at h
  simp only [skipToToken, hspaces, if_neg h.head_ne, Cursor.takeBreak_of_head h.solid.not_break]

theorem skipToToken_of_opens (fuel : ℕ) (h : Opens l.cursor.rest) :
    skipToToken (fuel + 1) l = l :=
  skipToToken_spaces (n := 0) fuel rfl h

theorem skipToToken_line (fuel : ℕ) (hrest : l.cursor.rest = lineBreak n ++ rest) (h : Opens rest)
    (hflow : l.depth = 0) :
    skipToToken (fuel + 2) l =
      { l with cursor := l.cursor.skip (n + 1), keyAllowed := true } := by
  have hspace : l.cursor.skipWhile (· = ' ') = l.cursor := by
    refine Cursor.skipWhile_of_head ?_
    rw [hrest]
    intro x hx
    obtain rfl : '\n' = x := by simpa [lineBreak] using hx
    rfl
  have hhead : l.cursor.head ≠ '#' := by
    rw [Cursor.head_of_eq hrest]
    decide
  have hnext : l.cursor.next.rest = List.replicate n ' ' ++ rest := by
    rw [Cursor.rest_next, hrest]
    rfl
  have hallowed : (l.keyAllowed || !l.inFlow) = true := by simp [inFlow, hflow]
  rw [skipToToken]
  simp only [hspace, if_neg hhead, Cursor.takeBreak_of_newline hrest, hallowed]
  exact skipToToken_spaces (l := { l with cursor := l.cursor.next, keyAllowed := true }) fuel
    hnext h

/-- Keys that started on the same line, not too far back. -/
def KeysFresh (l : Lexer) : Prop :=
  ∀ k ∈ l.keys, k.line = l.cursor.line ∧ l.cursor.index - k.index ≤ 1024

theorem dropStaleKeys_of_fresh (h : l.KeysFresh) : l.dropStaleKeys = .ok l := by
  have hfresh : ∀ k ∈ l.keys, ¬ (k.line ≠ l.cursor.line ∨ 1024 < l.cursor.index - k.index) := by
    intro k hk
    obtain ⟨hline, hindex⟩ := h k hk
    omega
  have hnone : (l.keys.any fun k => (decide (k.line ≠ l.cursor.line) ||
      decide (1024 < l.cursor.index - k.index)) && k.required) = false := by
    rw [List.any_eq_false]
    intro k hk
    have hk' := hfresh k hk
    simp only [Bool.and_eq_true, Bool.or_eq_true, decide_eq_true_eq]
    exact fun hstale => hk' hstale.1
  have hall : (l.keys.filter fun k => !(decide (k.line ≠ l.cursor.line) ||
      decide (1024 < l.cursor.index - k.index))) = l.keys := by
    rw [List.filter_eq_self]
    intro k hk
    have hk' := hfresh k hk
    rw [Bool.not_eq_true', ← Bool.not_eq_true, Bool.or_eq_true, decide_eq_true_eq,
      decide_eq_true_eq]
    exact hk'
  simp only [dropStaleKeys, hnone, hall, Bool.false_eq_true, if_false]

/-- Keys that started on an earlier line and need not be there. -/
def KeysStale (l : Lexer) : Prop :=
  ∀ k ∈ l.keys, k.line ≠ l.cursor.line ∧ k.required = false

theorem dropStaleKeys_of_stale (h : l.KeysStale) : l.dropStaleKeys = .ok { l with keys := [] } := by
  have hnone : (l.keys.any fun k => (decide (k.line ≠ l.cursor.line) ||
      decide (1024 < l.cursor.index - k.index)) && k.required) = false := by
    rw [List.any_eq_false]
    intro k hk
    simp [(h k hk).2]
  have hall : (l.keys.filter fun k => !(decide (k.line ≠ l.cursor.line) ||
      decide (1024 < l.cursor.index - k.index))) = [] := by
    rw [List.filter_eq_nil_iff]
    intro k hk
    simp [(h k hk).1]
  simp only [dropStaleKeys, hnone, hall, Bool.false_eq_true, if_false]

theorem unwind_of_le (h : l.depth = 0 → l.indent ≤ n) : l.unwind n = l := by
  unfold unwind
  split
  · rfl
  · rename_i hflow
    have hle := h (by simpa [inFlow] using hflow)
    cases hindents : l.indents with
    | nil => rfl
    | cons outer indents => rw [closeBlocks, if_neg (by omega)]

/-- Nothing is to be done where a token of the current block stands. -/
theorem prepare_of_opens (h : Opens l.cursor.rest) (hkeys : l.KeysFresh)
    (hindent : l.depth = 0 → l.indent ≤ l.cursor.column) : l.prepare = .ok l := by
  simp only [prepare, skipToToken_of_opens _ h, dropStaleKeys_of_fresh hkeys]
  show Except.ok (l.unwind l.cursor.column) = _
  rw [unwind_of_le hindent]

theorem prepare_of_stale (h : Opens l.cursor.rest) (hkeys : l.KeysStale) :
    l.prepare = { l with keys := [] }.prepare := by
  have hfresh : { l with keys := [] }.KeysFresh := fun k hk => absurd hk List.not_mem_nil
  have h' : Opens { l with keys := [] }.cursor.rest := h
  simp only [prepare, skipToToken_of_opens _ h, skipToToken_of_opens _ h',
    dropStaleKeys_of_stale hkeys, dropStaleKeys_of_fresh hfresh]

/-- Spaces before a token are passed. -/
theorem prepare_spaces (hrest : l.cursor.rest = List.replicate n ' ' ++ rest) (h : Opens rest) :
    l.prepare = { l with cursor := l.cursor.skip n }.prepare := by
  have hskip : (l.cursor.skip n).rest = rest := Cursor.rest_skip_replicate hrest
  have hopens : Opens { l with cursor := l.cursor.skip n }.cursor.rest := by rwa [hskip]
  simp only [prepare, skipToToken_spaces _ hrest h, skipToToken_of_opens _ hopens]

/-- A line break before a token is passed with the indentation behind it. The keys of the old line
are given up, and a new one may start. -/
theorem prepare_line (hrest : l.cursor.rest = lineBreak n ++ rest) (h : Opens rest)
    (hflow : l.depth = 0) (hkeys : ∀ k ∈ l.keys, k.line ≤ l.cursor.line ∧ k.required = false) :
    l.prepare =
      { l with cursor := l.cursor.skip (n + 1), keyAllowed := true, keys := [] }.prepare := by
  have hcursor := Cursor.skip_lineBreak hrest
  have hopens :
      Opens { l with cursor := l.cursor.skip (n + 1), keyAllowed := true }.cursor.rest := by
    rw [hcursor]
    exact h
  have hstale : KeysStale { l with cursor := l.cursor.skip (n + 1), keyAllowed := true } := by
    intro k hk
    obtain ⟨hline, hrequired⟩ := hkeys k hk
    refine ⟨?_, hrequired⟩
    rw [hcursor]
    show k.line ≠ l.cursor.line + 1
    omega
  have hlength : l.cursor.rest.length + 1 = (l.cursor.rest.length - 1) + 2 := by
    rw [hrest]
    simp [lineBreak]
  rw [← prepare_of_stale hopens hstale]
  simp only [prepare, hlength, skipToToken_line _ hrest h hflow, skipToToken_of_opens _ hopens]

/-- A block that ends before a token is closed. -/
theorem prepare_close {outer : ℤ} {indents : List ℤ} (h : Opens l.cursor.rest)
    (hflow : l.depth = 0) (hkeys : l.keys = []) (hindents : l.indents = outer :: indents)
    (hcolumn : (l.cursor.column : ℤ) < l.indent) :
    l.prepare =
      { l.emit .blockEnd with indent := outer, indents := indents }.prepare := by
  have hfresh : ∀ l' : Lexer, l'.keys = [] → l'.KeysFresh := fun l' hnil k hk => by
    rw [hnil] at hk
    cases hk
  have hopens : Opens
    { l.emit .blockEnd with indent := outer, indents := indents }.cursor.rest := h
  have hunwind : l.unwind l.cursor.column =
      { l.emit .blockEnd with indent := outer, indents := indents }.unwind l.cursor.column := by
    simp only [unwind, inFlow, emit, hflow, hindents, closeBlocks, hcolumn, if_true]
    rfl
  have hafter := dropStaleKeys_of_fresh
    (hfresh { l.emit .blockEnd with indent := outer, indents := indents } hkeys)
  simp only [prepare, skipToToken_of_opens _ h, skipToToken_of_opens _ hopens,
    dropStaleKeys_of_fresh (hfresh l hkeys), hafter]
  show Except.ok _ = Except.ok _
  rw [hunwind]
  rfl

/-! ## Indicators -/

section

variable {g : Char} {line column index : ℕ} {I : ℤ} {Is Is' : List ℤ} {t : Token}
  {starts emitted : List Token}

/-- At this column a token belongs to the current block, or opens a new one with the token `t`. -/
def Block (column : ℕ) (t : Token) (I : ℤ) (Is Is' : List ℤ) (starts : List Token) : Prop :=
  (I = column ∧ Is' = Is ∧ starts = []) ∨ (I < column ∧ Is' = I :: Is ∧ starts = [t])

theorem Block.le (h : Block column t I Is Is' starts) : I ≤ column := by
  rcases h with ⟨rfl, _⟩ | ⟨hlt, _⟩
  · exact le_rfl
  · exact hlt.le

theorem opening_eq {c : Cursor} {keys : List PendingKey}
    (h : Block c.column t I Is Is' starts) :
    opening ⟨c, I, Is, 0, true, keys, emitted⟩ t =
      .ok ⟨c, c.column, Is', 0, true, keys, starts ++ emitted⟩ := by
  rcases h with ⟨rfl, rfl, rfl⟩ | ⟨hlt, rfl, rfl⟩
  · simp [opening, openBlock, inFlow]
  · simp [opening, openBlock, inFlow, emit, hlt]

theorem advance_one {c : Cursor} {ch : Char} {keys : List PendingKey} {depth : ℕ}
    {keyAllowed : Bool} (hrest : c.rest = ch :: rest) (hch : isPlainAscii ch = true) :
    advance ⟨c, I, Is, depth, keyAllowed, keys, emitted⟩ 1 =
      ⟨⟨rest, c.line, c.column + 1, c.index + 1⟩, I, Is, depth, keyAllowed, keys, emitted⟩ := by
  rw [advance, ← Cursor.next_of_isPlainAscii hrest hch]
  rfl

/-- A hyphen before a gap is an entry of a sequence. -/
theorem token_dash (hgap : isGap g = true) (h : Block column .blockSequenceStart I Is Is' starts) :
    token ⟨⟨'-' :: g :: rest, line, column, index⟩, I, Is, 0, true, [], emitted⟩ =
      .ok ⟨⟨g :: rest, line, column + 1, index + 1⟩, column, Is', 0, true, [],
        .blockEntry :: (starts ++ emitted)⟩ := by
  set l : Lexer := ⟨⟨'-' :: g :: rest, line, column, index⟩, I, Is, 0, true, [], emitted⟩ with hl
  have hdash : g ≠ '-' := by
    rintro rfl
    cases hgap
  have hentry : l.token = l.blockEntry := by
    simp [token, Cursor.head, Cursor.peek, Cursor.atMarker, hl, hdash, hgap]
  rw [hentry, blockEntry, hl, opening_eq h]
  show Except.ok ((advance _ 1).emit _) = _
  rw [advance_one rfl rfl]
  rfl

/-- A question mark before a gap is a key. -/
theorem token_question (hgap : isGap g = true)
    (h : Block column .blockMappingStart I Is Is' starts) :
    token ⟨⟨'?' :: g :: rest, line, column, index⟩, I, Is, 0, true, [], emitted⟩ =
      .ok ⟨⟨g :: rest, line, column + 1, index + 1⟩, column, Is', 0, true, [],
        .key :: (starts ++ emitted)⟩ := by
  set l : Lexer := ⟨⟨'?' :: g :: rest, line, column, index⟩, I, Is, 0, true, [], emitted⟩ with hl
  have hkey : l.token = l.explicitKey := by
    simp [token, Cursor.head, Cursor.peek, Cursor.atMarker, hl, hgap]
  rw [hkey, explicitKey, hl, opening_eq h]
  show Except.ok ((advance _ 1).emit _) = _
  rw [advance_one rfl rfl]
  rfl

/-- A colon before a gap, with no key pending, is a value. -/
theorem token_colon (hgap : isGap g = true) (h : Block column .blockMappingStart I Is Is' starts) :
    token ⟨⟨':' :: g :: rest, line, column, index⟩, I, Is, 0, true, [], emitted⟩ =
      .ok ⟨⟨g :: rest, line, column + 1, index + 1⟩, column, Is', 0, true, [],
        .value :: (starts ++ emitted)⟩ := by
  set l : Lexer := ⟨⟨':' :: g :: rest, line, column, index⟩, I, Is, 0, true, [], emitted⟩ with hl
  have hvalue : l.token = l.value := by
    simp [token, Cursor.head, Cursor.peek, Cursor.atMarker, hl, hgap]
  rw [hvalue, value, hl]
  show (opening _ _ >>= _) = _
  rw [opening_eq h]
  show Except.ok ((advance _ 1).emit _) = _
  rw [advance_one rfl rfl]
  rfl

/-! ## Scalars -/

/-- The key that a token may turn out to be. -/
def pendingAt (c : Cursor) (I : ℤ) (keyAllowed : Bool) (emitted : List Token) : List PendingKey :=
  if keyAllowed then [⟨0, emitted.length, decide (I = c.column), c.index, c.line, c.column⟩] else []

theorem saveKey_eq {c : Cursor} {keyAllowed : Bool} :
    saveKey ⟨c, I, Is, 0, keyAllowed, [], emitted⟩ =
      .ok ⟨c, I, Is, 0, keyAllowed, pendingAt c I keyAllowed emitted, emitted⟩ := by
  cases keyAllowed <;> rfl

/-- A quoted scalar is one token. -/
theorem token_quoted {double keyAllowed : Bool} {printed text : List Char}
    (hquotes : Quotes double printed text) (hrest : rest.head? ≠ some '\x27') {c : Cursor}
    (hc : c.rest = (if double then '\x22' else '\x27') :: (printed ++ rest)) :
    token ⟨c, I, Is, 0, keyAllowed, [], emitted⟩ =
      .ok ⟨c.skip (printed.length + 1), I, Is, 0, false, pendingAt c I keyAllowed emitted,
        .scalar (String.ofList text) false :: emitted⟩ := by
  have hitem : token ⟨c, I, Is, 0, keyAllowed, [], emitted⟩ =
      item ⟨c, I, Is, 0, keyAllowed, [], emitted⟩ (quotedScalar double) := by
    cases double <;>
      simp [token, Cursor.head, Cursor.peek, Cursor.atMarker, hc, inFlow]
  have hnext : c.next.rest = printed ++ rest := by rw [Cursor.rest_next, hc]; rfl
  have hfuel : printed.length ≤ c.rest.length + 1 := by
    rw [hc]
    simp only [List.length_cons, List.length_append]
    omega
  have hread : quotedScalar double c =
      .ok (.scalar (String.ofList text) false, c.skip (printed.length + 1)) := by
    rw [quotedScalar, hquotes hrest hnext hfuel]
    rfl
  rw [hitem, item, saveKey_eq]
  show (quotedScalar double c >>= _) = _
  rw [hread]
  rfl

/-- Three equal characters that are not at the start are no marker. -/
theorem atMarker_eq_false {c : Cursor} {y : Char} (hy : y ≠ '\x00')
    (hthree : [y, y, y].isPrefixOf c.rest = false) : c.atMarker y = false := by
  rcases hc : c.rest with _ | ⟨x, _ | ⟨a, _ | ⟨b, xs⟩⟩⟩
  · simp [Cursor.atMarker, Cursor.peek, hc, Ne.symm hy]
  · simp [Cursor.atMarker, Cursor.peek, hc, Ne.symm hy]
  · simp [Cursor.atMarker, Cursor.peek, hc, Ne.symm hy]
  · rw [hc] at hthree
    have hnot : ¬ (x = y ∧ a = y ∧ b = y) := by
      rintro ⟨rfl, rfl, rfl⟩
      simp [List.isPrefixOf] at hthree
    simp [Cursor.atMarker, Cursor.head, Cursor.peek, hc]
    exact fun hx ha hb => absurd ⟨hx, ha, hb⟩ hnot

/-- Where nothing looks like an indicator, a plain scalar starts. -/
theorem token_eq_plainScalar {x : Char} {xs : List Char} (hflow : l.depth = 0)
    (hc : l.cursor.rest = x :: xs) (hgap : isGap x = false)
    (hstart : startsLikeIndicator (x :: xs) = false) : l.token = l.plainScalar := by
  simp only [startsLikeIndicator, Bool.or_eq_false_iff] at hstart
  obtain ⟨⟨⟨hset, hmarks⟩, hdashes⟩, hdots⟩ := hstart
  have hhead : l.cursor.head = x := Cursor.head_of_eq hc
  have hpeek : l.cursor.peek 1 = xs.headD '\x00' := by
    rw [Cursor.peek, hc]
    cases xs <;> rfl
  have hne : ∀ y ∈ "#,[]\x7b\x7d&*!|>'\"%@\x60".toList, x ≠ y := by
    rintro y hy rfl
    rw [← List.contains_iff_mem, hset] at hy
    cases hy
  have hgaps : (x = '?' ∨ x = ':' ∨ x = '-') → isGap (l.cursor.peek 1) = false := by
    intro hx
    rw [Bool.and_eq_false_iff, ← hpeek] at hmarks
    refine hmarks.resolve_left ?_
    rcases hx with rfl | rfl | rfl <;> decide
  have hdash : l.cursor.atMarker '-' = false := atMarker_eq_false (by decide) (by rwa [hc])
  have hdot : l.cursor.atMarker '.' = false := atMarker_eq_false (by decide) (by rwa [hc])
  have hplain : l.startsPlain = true := by
    by_cases hx : x = '?' ∨ x = ':' ∨ x = '-'
    · have hnext := hgaps hx
      rcases hx with rfl | rfl | rfl <;> simp [startsPlain, hhead, hnext, inFlow, hflow]
    · simp only [not_or] at hx
      simp at hne
      simp [startsPlain, hhead, hgap, hx, hne]
  have hindicator : ∀ y, (y = '?' ∨ y = ':' ∨ y = '-') →
      ¬ (x = y ∧ isGap (l.cursor.peek 1) = true) := by
    rintro y hy ⟨rfl, hnext⟩
    rw [hgaps hy] at hnext
    cases hnext
  have hquestion := hindicator '?' (by simp)
  have hcolon := hindicator ':' (by simp)
  have hentry := hindicator '-' (by simp)
  simp at hne
  simp [token, hhead, hne, hdash, hdot, inFlow, hflow, hquestion, hcolon, hentry, hplain]

/-- A plain scalar is one token, with the blanks and the line break behind it. -/
theorem token_plain {keyAllowed : Bool} {printed text : List Char}
    (hread : ReadsPlain (I + 1).toNat printed text) (hends : EndsPlain (I + 1).toNat rest)
    (hstart : startsLikeIndicator (printed ++ rest) = false) {c : Cursor}
    (hc : c.rest = printed ++ rest) (hcolumn : (I + 1).toNat ≤ c.column + 1) :
    token ⟨c, I, Is, 0, keyAllowed, [], emitted⟩ =
      .ok ⟨(plainBlanks (c.skip printed.length)).2.2, I, Is, 0,
        (plainBlanks (c.skip printed.length)).2.1, pendingAt c I keyAllowed emitted,
        .scalar (String.ofList text) true :: emitted⟩ := by
  obtain ⟨x, xs, rfl, hx, hspace, _⟩ := hread.start
  have hgap : isGap x = false := by rw [isGap_eq_of_isPlainAscii hx, decide_eq_false hspace]
  have hplain : token ⟨c, I, Is, 0, keyAllowed, [], emitted⟩ =
      plainScalar ⟨c, I, Is, 0, keyAllowed, [], emitted⟩ :=
    token_eq_plainScalar rfl hc hgap hstart
  have hfuel : (x :: xs).length ≤ c.rest.length + 1 := by
    rw [hc, List.length_append]
    omega
  have hblock : decide (0 ≠ 0) = false := rfl
  rw [hplain, plainScalar, saveKey_eq]
  simp only [bind, Except.bind, inFlow, hblock,
    hread.reads (c.rest.length + 1) [] false hends hc hcolumn hfuel]
  rfl

/-! ## Brackets -/

/-- An opening bracket, of a mapping or a sequence. -/
theorem token_open {mapping keyAllowed : Bool} {c : Cursor}
    (hc : c.rest = (if mapping then '\x7b' else '[') :: rest) :
    token ⟨c, I, Is, 0, keyAllowed, [], emitted⟩ =
      .ok ⟨⟨rest, c.line, c.column + 1, c.index + 1⟩, I, Is, 1, true,
        pendingAt c I keyAllowed emitted,
        (if mapping then .flowMappingStart else .flowSequenceStart) :: emitted⟩ := by
  have hbracket : token ⟨c, I, Is, 0, keyAllowed, [], emitted⟩ =
      openBracket ⟨c, I, Is, 0, keyAllowed, [], emitted⟩
        (if mapping then .flowMappingStart else .flowSequenceStart) := by
    cases mapping <;> simp [token, Cursor.head, Cursor.atMarker, hc]
  rw [hbracket, openBracket, saveKey_eq]
  show Except.ok ((advance _ 1).emit _) = _
  rw [advance_one hc (by cases mapping <;> rfl)]
  rfl

/-- The closing bracket. -/
theorem token_close {mapping keyAllowed : Bool} {c : Cursor} {keys : List PendingKey}
    (hc : c.rest = (if mapping then '\x7d' else ']') :: rest) (hkeys : ∀ k ∈ keys, k.depth = 0) :
    token ⟨c, I, Is, 1, keyAllowed, keys, emitted⟩ =
      .ok ⟨⟨rest, c.line, c.column + 1, c.index + 1⟩, I, Is, 0, false, keys,
        (if mapping then .flowMappingEnd else .flowSequenceEnd) :: emitted⟩ := by
  have hbracket : token ⟨c, I, Is, 1, keyAllowed, keys, emitted⟩ =
      closeBracket ⟨c, I, Is, 1, keyAllowed, keys, emitted⟩
        (if mapping then .flowMappingEnd else .flowSequenceEnd) := by
    cases mapping <;> simp [token, Cursor.head, Cursor.atMarker, hc]
  have hdrop : dropKey ⟨c, I, Is, 1, keyAllowed, keys, emitted⟩ =
      .ok ⟨c, I, Is, 1, keyAllowed, keys, emitted⟩ := by
    have hnone : (keys.any fun k => k.depth = 1 && k.required) = false := by
      rw [List.any_eq_false]
      intro k hk
      simp [hkeys k hk]
    have hall : (keys.filter fun k => k.depth ≠ 1) = keys := by
      rw [List.filter_eq_self]
      intro k hk
      simp [hkeys k hk]
    simp only [dropKey, hnone, hall, Bool.false_eq_true, if_false]
  rw [hbracket, closeBracket, hdrop]
  show Except.ok ((advance _ 1).emit _) = _
  rw [advance_one hc (by cases mapping <;> rfl)]
  rfl

/-! ## Simple keys -/

theorem insertAt_length (t : Token) (later earlier : List Token) :
    insertAt earlier.length t (later ++ earlier) = later ++ t :: earlier := by
  have hlength : (later ++ earlier).length - earlier.length = later.length := by simp
  simp only [insertAt, hlength, List.take_left', List.drop_left']

/-- The first token of a block that turns out to have started behind the tokens `earlier`. -/
theorem openBlockAt_eq {c : Cursor} {keyAllowed : Bool} {keys : List PendingKey}
    {later earlier : List Token} (h : Block column t I Is Is' starts) :
    openBlockAt ⟨c, I, Is, 0, keyAllowed, keys, later ++ earlier⟩ column earlier.length t =
      ⟨c, column, Is', 0, keyAllowed, keys, later ++ (starts ++ earlier)⟩ := by
  rcases h with ⟨rfl, rfl, rfl⟩ | ⟨hlt, rfl, rfl⟩
  · simp [openBlockAt, openBlock]
  · simp [openBlockAt, openBlock, hlt, insertAt_length]

/-- At the colon the scalar before it turns out to be a key, maybe the first of its block. -/
theorem token_value {keyAllowed required : Bool} {start startColumn : ℕ} {scalar : Token}
    (hgap : isGap g = true) (h : Block startColumn .blockMappingStart I Is Is' starts) :
    token ⟨⟨':' :: g :: rest, line, column, index⟩, I, Is, 0, keyAllowed,
        [⟨0, emitted.length, required, start, line, startColumn⟩], scalar :: emitted⟩ =
      .ok ⟨⟨g :: rest, line, column + 1, index + 1⟩, startColumn, Is', 0, false, [],
        .value :: scalar :: .key :: (starts ++ emitted)⟩ := by
  set l : Lexer := ⟨⟨':' :: g :: rest, line, column, index⟩, I, Is, 0, keyAllowed,
    [⟨0, emitted.length, required, start, line, startColumn⟩], scalar :: emitted⟩ with hl
  have hvalue : l.token = l.value := by
    simp [token, Cursor.head, Cursor.peek, Cursor.atMarker, hl, hgap]
  have hkey : insertAt emitted.length .key (scalar :: emitted) = [scalar, .key] ++ emitted :=
    insertAt_length .key [scalar] emitted
  rw [hvalue, value, hl]
  show Except.ok ((advance (openBlockAt ⟨_, I, Is, 0, false, [],
    insertAt emitted.length .key (scalar :: emitted)⟩ startColumn emitted.length _) 1).emit _) = _
  rw [hkey, openBlockAt_eq h, advance_one rfl rfl]
  rfl

end

end Lexer

end NodeGraph.Yaml
