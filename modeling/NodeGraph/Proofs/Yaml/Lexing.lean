import NodeGraph.Proofs.Yaml.Scan

/-!
# The tokens of a text

`Leads` says which tokens a text leads to from a place in a block on. It has a rule for each piece
of a written document, from the end of the text to its start.
-/

namespace NodeGraph.Yaml

open Printer

/-! ## Scalars in their styles -/

/-- The ways in which a text stands as one token: plain (true) or quoted. -/
inductive Spells (indent : ℕ) (text : List Char) : Bool → List Char → Prop where
  | plain {printed : List Char} (hread : ReadsPlain indent printed text)
      (hstart : ∀ rest, EndsPlain indent rest →
        startsLikeIndicator (printed ++ rest) = false) : Spells indent text true printed
  | quoted {printed : List Char} (double : Bool) (hquotes : Quotes double printed text) :
      Spells indent text false ((if double then '\x22' else '\x27') :: printed)

namespace Lexer

variable {cs rest printed text : List Char} {g : Char} {n column : ℕ} {I : ℤ}
  {Is Is' : List ℤ} {keyAllowed style : Bool} {ts starts emitted : List Token} {l l' : Lexer}

theorem opens_cons {x : Char} (hgap : isGap x = false) (hsign : x ≠ '#') : Opens (x :: cs) := by
  refine ⟨fun y hy => ?_, by simpa using hsign⟩
  obtain rfl : x = y := by simpa using hy
  exact hgap

theorem length_pos_of_spells {indent : ℕ} (h : Spells indent text style printed) :
    0 < printed.length := by
  cases h with
  | plain hread _ =>
      obtain ⟨x, xs, rfl, _⟩ := hread.start
      exact Nat.succ_pos _
  | quoted => exact Nat.succ_pos _

theorem opens_spells {indent : ℕ} (h : Spells indent text style printed) :
    Opens (printed ++ rest) := by
  cases h with
  | plain hread hstart =>
      obtain ⟨x, xs, rfl, hx, hspace, hsign⟩ := hread.start
      exact opens_cons (by rw [isGap_eq_of_isPlainAscii hx, decide_eq_false hspace]) hsign
  | quoted double hquotes => cases double <;> exact opens_cons rfl (by decide)

/-! ## Steps -/

theorem keysFresh_nil (h : l.keys = []) : l.KeysFresh := by
  intro k hk
  rw [h] at hk
  cases hk

theorem run_of_prepare (fuel : ℕ) (h : l.prepare = l'.prepare) (hopens : Opens l'.cursor.rest)
    (hkeys : l'.keys = []) : run (fuel + 1) l = run (fuel + 1) l' := by
  have hok : l'.prepare = .ok (l'.unwind l'.cursor.column) := by
    simp only [prepare, skipToToken_of_opens _ hopens, dropStaleKeys_of_fresh (keysFresh_nil hkeys)]
    rfl
  simp only [run, h, hok]

theorem run_of_token (fuel : ℕ) (hprepare : l.prepare = .ok l) (hrest : l.cursor.rest ≠ [])
    (htoken : l.token = .ok l') : run (fuel + 1) l = run fuel l' := by
  have hempty : l.cursor.rest.isEmpty = false := by simpa using hrest
  simp only [run, hprepare, hempty, htoken, Bool.false_eq_true, if_false]

/-- The text `cs` at a column of a block with no key pending leads to the tokens `ts`. -/
def Leads (cs : List Char) (column : ℕ) (I : ℤ) (Is : List ℤ) (keyAllowed : Bool)
    (ts : List Token) : Prop :=
  ∀ ⦃line index : ℕ⦄ ⦃emitted : List Token⦄ ⦃fuel : ℕ⦄, cs.length < fuel →
    run fuel ⟨⟨cs, line, column, index⟩, I, Is, 0, keyAllowed, [], emitted⟩ = emitted.reverse ++ ts

theorem Block.reverse_starts {t : Token} (h : Block column t I Is Is' starts) :
    starts.reverse = starts := by
  rcases h with ⟨_, _, rfl⟩ | ⟨_, _, rfl⟩ <;> rfl

namespace Leads

/-- A token that is read on its own; `newest` holds what it adds, the latest first. -/
theorem token (newest : List Token) {I' : ℤ} {keyAllowed' : Bool}
    (hopens : Opens cs) (hne : cs ≠ []) (hindent : I ≤ column) (hlength : rest.length < cs.length)
    (htoken : ∀ line index emitted, ∃ line' index',
      Lexer.token ⟨⟨cs, line, column, index⟩, I, Is, 0, keyAllowed, [], emitted⟩ =
        .ok ⟨⟨rest, line', n, index'⟩, I', Is', 0, keyAllowed', [], newest ++ emitted⟩)
    (h : Leads rest n I' Is' keyAllowed' ts) :
    Leads cs column I Is keyAllowed (newest.reverse ++ ts) := by
  intro line index emitted fuel hfuel
  obtain ⟨fuel, rfl⟩ : ∃ f, fuel = f + 1 := ⟨fuel - 1, by omega⟩
  obtain ⟨line', index', htoken⟩ := htoken line index emitted
  rw [run_of_token fuel (prepare_of_opens hopens (keysFresh_nil rfl) fun _ => hindent) hne htoken,
    h (by omega), List.reverse_append, List.append_assoc]

theorem space (hopens : Opens cs) (h : Leads cs (column + 1) I Is keyAllowed ts) :
    Leads (' ' :: cs) column I Is keyAllowed ts := by
  intro line index emitted fuel hfuel
  rw [List.length_cons] at hfuel
  obtain ⟨fuel, rfl⟩ : ∃ f, fuel = f + 1 := ⟨fuel - 1, by omega⟩
  have hprepare := prepare_spaces (n := 1)
    (l := ⟨⟨' ' :: cs, line, column, index⟩, I, Is, 0, keyAllowed, [], emitted⟩) rfl hopens
  rw [run_of_prepare fuel hprepare hopens rfl]
  exact h (by omega)

/-- Behind the last token of a line, whose keys are given up. -/
theorem run_line {c : Cursor} {keys : List PendingKey} {fuel : ℕ}
    (hc : c.rest = lineBreak n ++ cs) (hopens : Opens cs)
    (hkeys : ∀ k ∈ keys, k.line ≤ c.line ∧ k.required = false)
    (h : Leads cs n I Is true ts) (hfuel : cs.length < fuel) :
    run fuel ⟨c, I, Is, 0, keyAllowed, keys, emitted⟩ = emitted.reverse ++ ts := by
  obtain ⟨fuel, rfl⟩ : ∃ f, fuel = f + 1 := ⟨fuel - 1, by omega⟩
  have hprepare := prepare_line (l := ⟨c, I, Is, 0, keyAllowed, keys, emitted⟩) hc hopens rfl hkeys
  rw [Cursor.skip_lineBreak hc] at hprepare
  rw [run_of_prepare fuel hprepare hopens rfl]
  exact h hfuel

/-- At the start of a line, before the keys of earlier lines are given up. -/
theorem run_stale {line index : ℕ} {keys : List PendingKey} {fuel : ℕ} (hopens : Opens cs)
    (hkeys : ∀ k ∈ keys, k.line < line ∧ k.required = false)
    (h : Leads cs n I Is true ts) (hfuel : cs.length < fuel) :
    run fuel ⟨⟨cs, line, n, index⟩, I, Is, 0, true, keys, emitted⟩ = emitted.reverse ++ ts := by
  obtain ⟨fuel, rfl⟩ : ∃ f, fuel = f + 1 := ⟨fuel - 1, by omega⟩
  have hprepare := prepare_of_stale
    (l := ⟨⟨cs, line, n, index⟩, I, Is, 0, true, keys, emitted⟩) hopens
    fun k hk => ⟨(hkeys k hk).1.ne, (hkeys k hk).2⟩
  rw [run_of_prepare fuel hprepare hopens rfl]
  exact h hfuel

theorem line (hopens : Opens cs) (h : Leads cs n I Is true ts) :
    Leads (lineBreak n ++ cs) column I Is keyAllowed ts := by
  intro line index emitted fuel hfuel
  rw [List.length_append] at hfuel
  exact run_line rfl hopens (by simp) h (by omega)

theorem close {outer : ℤ} (hopens : Opens cs) (hcolumn : (column : ℤ) < I)
    (h : Leads cs column outer Is keyAllowed ts) :
    Leads cs column I (outer :: Is) keyAllowed (.blockEnd :: ts) := by
  intro line index emitted fuel hfuel
  obtain ⟨fuel, rfl⟩ : ∃ f, fuel = f + 1 := ⟨fuel - 1, by omega⟩
  have hprepare := prepare_close
    (l := ⟨⟨cs, line, column, index⟩, I, outer :: Is, 0, keyAllowed, [], emitted⟩) hopens rfl rfl
    rfl hcolumn
  rw [run_of_prepare fuel hprepare hopens rfl]
  have hrun := @h line index (.blockEnd :: emitted) (fuel + 1) hfuel
  rw [List.reverse_cons, List.append_assoc] at hrun
  exact hrun

/-- The end of a document closes its only block. -/
theorem finish : Leads [] 0 0 [-1] keyAllowed [.blockEnd, .stop none] := by
  intro line index emitted fuel hfuel
  obtain ⟨fuel, rfl⟩ : ∃ f, fuel = f + 1 := ⟨fuel - 1, by omega⟩
  have hopens : Opens [] := ⟨by simp [Solid], by simp⟩
  have hprepare := prepare_of_opens
    (l := ⟨⟨[], line, 0, index⟩, 0, [-1], 0, keyAllowed, [], emitted⟩) hopens (keysFresh_nil rfl)
    fun _ => le_rfl
  simp only [run, hprepare]
  show (Token.stop none :: .blockEnd :: emitted).reverse = _
  simp

/-! ### Indicators -/

theorem dash (hgap : isGap g = true) (hblock : Block column .blockSequenceStart I Is Is' starts)
    (h : Leads (g :: rest) (column + 1) column Is' true ts) :
    Leads ('-' :: g :: rest) column I Is true (starts ++ .blockEntry :: ts) := by
  have hleads := token (.blockEntry :: starts) (opens_cons rfl (by decide)) (by simp) hblock.le
    (by simp) (fun line index emitted => ⟨_, _, token_dash hgap hblock⟩) h
  rwa [List.reverse_cons, hblock.reverse_starts, List.append_assoc] at hleads

theorem question (hgap : isGap g = true) (hblock : Block column .blockMappingStart I Is Is' starts)
    (h : Leads (g :: rest) (column + 1) column Is' true ts) :
    Leads ('?' :: g :: rest) column I Is true (starts ++ .key :: ts) := by
  have hleads := token (.key :: starts) (opens_cons rfl (by decide)) (by simp) hblock.le
    (by simp) (fun line index emitted => ⟨_, _, token_question hgap hblock⟩) h
  rwa [List.reverse_cons, hblock.reverse_starts, List.append_assoc] at hleads

/-- The value of a key that has its own line. -/
theorem colon (hgap : isGap g = true) (h : Leads (g :: rest) (column + 1) column Is true ts) :
    Leads (':' :: g :: rest) column column Is true (.value :: ts) :=
  token [.value] (opens_cons rfl (by decide)) (by simp) le_rfl (by simp)
    (fun line index emitted => ⟨_, _, token_colon hgap (.inl ⟨rfl, rfl, rfl⟩)⟩) h

/-! ### Scalars and brackets -/

theorem pendingAt_optional {c : Cursor} (hcolumn : I < c.column) :
    ∀ k ∈ pendingAt c I keyAllowed emitted,
      k.line = c.line ∧ k.index = c.index ∧ k.depth = 0 ∧ k.required = false := by
  intro k hk
  cases keyAllowed with
  | false => cases hk
  | true =>
      obtain rfl := List.mem_singleton.mp hk
      exact ⟨rfl, rfl, rfl, by simp [hcolumn.ne]⟩

/-- A scalar that is no key, up to the next line of its block or one around it. -/
theorem scalar (hspells : Spells (I + 1).toNat text style printed) (hcolumn : I < column)
    (hn : (n : ℤ) ≤ I) (hopens : Opens cs) (h : Leads cs n I Is true ts) :
    Leads (printed ++ (lineBreak n ++ cs)) column I Is keyAllowed
      (.scalar (String.ofList text) style :: ts) := by
  intro line index emitted fuel hfuel
  obtain ⟨fuel, rfl⟩ : ∃ f, fuel = f + 1 := ⟨fuel - 1, by omega⟩
  set c : Cursor := ⟨printed ++ (lineBreak n ++ cs), line, column, index⟩ with hc
  have hpending : ∀ k ∈ pendingAt c I keyAllowed emitted, _ := pendingAt_optional hcolumn
  have hprepare := prepare_of_opens (l := ⟨c, I, Is, 0, keyAllowed, [], emitted⟩)
    (opens_spells hspells) (keysFresh_nil rfl) fun _ => hcolumn.le
  simp only [List.length_append, length_lineBreak] at hfuel
  cases hspells with
  | plain hread hstart =>
      have hends : EndsPlain (I + 1).toNat (lineBreak n ++ cs) := .line (by omega) hopens.solid
      have htoken : Lexer.token ⟨c, I, Is, 0, keyAllowed, [], emitted⟩ = _ :=
        token_plain hread hends (hstart _ hends) rfl (by show (I + 1).toNat ≤ column + 1; omega)
      have hskip : (c.skip printed.length).rest = lineBreak n ++ cs := Cursor.rest_skip_of_eq rfl
      rw [(plainBlanks_line hskip hopens.solid).1, Cursor.skip_lineBreak hskip] at htoken
      rw [run_of_token _ hprepare (by simp [c, lineBreak]) htoken]
      refine (run_stale hopens (fun k hk => ?_) h (by omega)).trans (by simp)
      obtain ⟨hline, _, _, hrequired⟩ := hpending k hk
      exact ⟨by rw [hline]; exact Nat.lt_succ_of_le (Cursor.line_le_skip _), hrequired⟩
  | @quoted printed double hquotes =>
      have hmark : (lineBreak n ++ cs).head? ≠ some '\x27' := by simp [lineBreak]
      have htoken : Lexer.token ⟨c, I, Is, 0, keyAllowed, [], emitted⟩ = _ :=
        token_quoted hquotes hmark rfl
      have hskip : (c.skip (printed.length + 1)).rest = lineBreak n ++ cs := by
        have hlength := Cursor.rest_skip_of_eq (c := c) rfl
        rwa [List.length_cons] at hlength
      rw [run_of_token _ hprepare (by simp [c]) htoken]
      refine (run_line hskip hopens (fun k hk => ?_) h (by omega)).trans (by simp)
      obtain ⟨hline, _, _, hrequired⟩ := hpending k hk
      exact ⟨by rw [hline]; exact Cursor.line_le_skip _, hrequired⟩

/-- Empty brackets, up to the next line of the block or one around it. -/
theorem brackets (mapping : Bool) (hcolumn : I < column) (hopens : Opens cs)
    (h : Leads cs n I Is true ts) :
    Leads ((if mapping then '\x7b' else '[') :: (if mapping then '\x7d' else ']') ::
        (lineBreak n ++ cs)) column I Is keyAllowed
      ((if mapping then .flowMappingStart else .flowSequenceStart) ::
        (if mapping then .flowMappingEnd else .flowSequenceEnd) :: ts) := by
  intro line index emitted fuel hfuel
  simp only [List.length_cons, List.length_append, length_lineBreak] at hfuel
  obtain ⟨fuel, rfl⟩ : ∃ f, fuel = f + 2 := ⟨fuel - 2, by omega⟩
  set rest : List Char := (if mapping then '\x7d' else ']') :: (lineBreak n ++ cs) with hrest
  set c : Cursor := ⟨(if mapping then '\x7b' else '[') :: rest, line, column, index⟩ with hc
  have hpending : ∀ k ∈ pendingAt c I keyAllowed emitted, _ := pendingAt_optional hcolumn
  have hopen : Opens c.rest := by cases mapping <;> exact opens_cons rfl (by decide)
  have hclose : Opens rest := by cases mapping <;> exact opens_cons rfl (by decide)
  have hprepare := prepare_of_opens (l := ⟨c, I, Is, 0, keyAllowed, [], emitted⟩) hopen
    (keysFresh_nil rfl) fun _ => hcolumn.le
  set l : Lexer := ⟨⟨rest, line, column + 1, index + 1⟩, I, Is, 1, true,
    pendingAt c I keyAllowed emitted,
    (if mapping then .flowMappingStart else .flowSequenceStart) :: emitted⟩ with hl
  have htoken : Lexer.token ⟨c, I, Is, 0, keyAllowed, [], emitted⟩ = .ok l := token_open rfl
  have hfresh : l.KeysFresh := by
    intro k hk
    obtain ⟨hline, hindex, _⟩ := hpending k hk
    refine ⟨hline, ?_⟩
    rw [hindex]
    show index + 1 - index ≤ 1024
    omega
  have hprepare' := prepare_of_opens (l := l) hclose hfresh fun hflow => by cases hflow
  have htoken' : Lexer.token ⟨l.cursor, I, Is, 1, true, l.keys, l.emitted⟩ = _ :=
    token_close rfl fun k hk => (hpending k hk).2.2.1
  rw [run_of_token _ hprepare (by simp [c]) htoken,
    run_of_token _ hprepare' (by simp [l, hrest]) htoken']
  refine (run_line rfl hopens (fun k hk => ?_) h (by omega)).trans (by simp [l])
  obtain ⟨hline, _, _, hrequired⟩ := hpending k hk
  exact ⟨hline.le, hrequired⟩

/-- The scalar before a colon is a key that may still be pending there. -/
theorem token_scalar_colon (hspells : Spells (I + 1).toNat text style printed)
    (hprinted : ∀ x ∈ printed, isPlainAscii x = true) (hgap : isGap g = true) (hcolumn : I ≤ column)
    (line index : ℕ) :
    Lexer.token ⟨⟨printed ++ ':' :: g :: rest, line, column, index⟩, I, Is, 0, true, [], emitted⟩ =
      .ok ⟨⟨':' :: g :: rest, line, column + printed.length, index + printed.length⟩, I, Is, 0,
        false, [⟨0, emitted.length, decide (I = column), index, line, column⟩],
        .scalar (String.ofList text) style :: emitted⟩ := by
  set c : Cursor := ⟨printed ++ ':' :: g :: rest, line, column, index⟩ with hc
  have hafter := Cursor.skip_of_isPlainAscii (c := c) rfl hprinted
  cases hspells with
  | plain hread hstart =>
      have hends : EndsPlain (I + 1).toNat (':' :: g :: rest) := .colon hgap
      have hskip : (c.skip printed.length).rest = List.replicate 0 ' ' ++ ':' :: g :: rest :=
        Cursor.rest_skip_of_eq rfl
      have hcolon : Opens (':' :: g :: rest) := opens_cons rfl (by decide)
      rw [token_plain hread hends (hstart _ hends) rfl
        (by show (I + 1).toNat ≤ column + 1; omega), plainBlanks_spaces hskip hcolon.solid]
      show Except.ok _ = _
      rw [Cursor.skip, hafter]
      rfl
  | @quoted printed double hquotes =>
      rw [token_quoted hquotes (by simp) rfl]
      show Except.ok _ = _
      rw [← List.length_cons, hafter]
      rfl

/-- A key on one line with its value, where a line of a mapping stands. -/
theorem key (hspells : Spells (I + 1).toNat text style printed)
    (hprinted : ∀ x ∈ printed, isPlainAscii x = true) (hlength : printed.length ≤ 1024)
    (hgap : isGap g = true) (hblock : Block column .blockMappingStart I Is Is' starts)
    (h : Leads (g :: rest) (column + printed.length + 1) column Is' false ts) :
    Leads (printed ++ ':' :: g :: rest) column I Is true
      (starts ++ .key :: .scalar (String.ofList text) style :: .value :: ts) := by
  intro line index emitted fuel hfuel
  have hpos := length_pos_of_spells hspells
  simp only [List.length_append, List.length_cons] at hfuel
  obtain ⟨fuel, rfl⟩ : ∃ f, fuel = f + 2 := ⟨fuel - 2, by omega⟩
  set c : Cursor := ⟨printed ++ ':' :: g :: rest, line, column, index⟩ with hc
  have hle := hblock.le
  have hprepare := prepare_of_opens (l := ⟨c, I, Is, 0, true, [], emitted⟩)
    (opens_spells hspells) (keysFresh_nil rfl) fun _ => hle
  set l : Lexer := ⟨⟨':' :: g :: rest, line, column + printed.length, index + printed.length⟩, I,
    Is, 0, false, [⟨0, emitted.length, decide (I = column), index, line, column⟩],
    .scalar (String.ofList text) style :: emitted⟩ with hl
  have htoken : Lexer.token ⟨c, I, Is, 0, true, [], emitted⟩ = .ok l :=
    token_scalar_colon hspells hprinted hgap hle line index
  have hfresh : l.KeysFresh := by
    intro k hk
    obtain rfl := List.mem_singleton.mp hk
    refine ⟨rfl, ?_⟩
    show index + printed.length - index ≤ 1024
    omega
  have hprepare' := prepare_of_opens (l := l) (opens_cons rfl (by decide)) hfresh fun _ => by
    show I ≤ ((column + printed.length : ℕ) : ℤ)
    omega
  have htoken' : l.token = _ := token_value hgap hblock
  rw [run_of_token _ hprepare (by simp [c]) htoken, run_of_token _ hprepare' (by simp [l]) htoken',
    h (by simp only [List.length_cons]; omega)]
  have hstarts := hblock.reverse_starts
  simp [hstarts]

end Leads

end Lexer

end NodeGraph.Yaml
