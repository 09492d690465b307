import Mathlib.Data.List.Basic
import NodeGraph.Template

/-!
# Placeholders in a template

`Template.pieces` searches a template from left to right. `Match` says what it searches for: two
opening braces and the first two closing ones behind them, all on one line. `Scan` says what it
finds: the first match, then the first one behind that, and so on, with the stretches in between.

`pieces_cases` is the induction that everything here is proved by: a text is empty, starts with a
match, or starts with a character that stays as it is.
-/

namespace NodeGraph.Template

variable {cs inner rest pre : List Char}

/-! ## One placeholder -/

/-- Two closing braces follow on this line. -/
def ClosesOnLine (cs : List Char) : Prop :=
  ∃ inner rest, cs = inner ++ '\x7d' :: '\x7d' :: rest ∧ '\n' ∉ inner

/-- The text starts with a placeholder: `inner` stands between two opening braces and the first two
closing ones, on one line, and `rest` stands behind them. -/
structure Match (cs inner rest : List Char) : Prop where
  eq : cs = '\x7b' :: '\x7b' :: (inner ++ '\x7d' :: '\x7d' :: rest)
  line : '\n' ∉ inner
  first : ∀ inner' rest', inner ++ '\x7d' :: '\x7d' :: rest = inner' ++ '\x7d' :: '\x7d' :: rest' →
    inner.length ≤ inner'.length

theorem closing?_isSome_iff : (closing? cs).isSome = true ↔ ClosesOnLine cs := by
  fun_induction closing? cs with
  | case1 => simp [ClosesOnLine]
  | case2 rest => exact iff_of_true rfl ⟨[], rest, rfl, List.not_mem_nil⟩
  | case3 rest hopen =>
      refine iff_of_false Bool.false_ne_true ?_
      rintro ⟨inner, tail, heq, hline⟩
      cases inner with
      | nil => exact absurd (List.cons.inj heq).1 (by decide)
      | cons d inner => exact hline ((List.cons.inj heq).1 ▸ List.mem_cons_self)
  | case4 c rest hopen hc ih =>
      rw [Option.isSome_map, ih]
      constructor
      · rintro ⟨inner, tail, rfl, hline⟩
        exact ⟨c :: inner, tail, rfl, by simp [hline, Ne.symm hc]⟩
      · rintro ⟨inner, tail, heq, hline⟩
        cases inner with
        | nil =>
            obtain ⟨rfl, htail⟩ := List.cons.inj heq
            exact absurd htail (hopen tail rfl)
        | cons d inner =>
            exact ⟨inner, tail, (List.cons.inj heq).2, fun h => hline (List.mem_cons_of_mem _ h)⟩

/-- What is found ends at the first two closing braces. -/
theorem closing?_eq_some (h : closing? cs = some inner) :
    ∃ rest, cs = inner ++ '\x7d' :: '\x7d' :: rest ∧ '\n' ∉ inner ∧
      ∀ inner' rest', cs = inner' ++ '\x7d' :: '\x7d' :: rest' → inner.length ≤ inner'.length := by
  fun_induction closing? cs generalizing inner with
  | case1 => cases h
  | case2 rest =>
      obtain rfl := Option.some.inj h
      exact ⟨rest, rfl, List.not_mem_nil, fun _ _ _ => Nat.zero_le _⟩
  | case3 rest hopen => cases h
  | case4 c rest hopen hc ih =>
      obtain ⟨found, hfound, rfl⟩ := Option.map_eq_some_iff.mp h
      obtain ⟨tail, rfl, hline, hfirst⟩ := ih hfound
      refine ⟨tail, rfl, by simp [hline, Ne.symm hc], ?_⟩
      intro inner' rest' heq
      cases inner' with
      | nil =>
          obtain ⟨rfl, htail⟩ := List.cons.inj heq
          exact absurd htail (hopen rest' rfl)
      | cons d inner' => exact Nat.succ_le_succ (hfirst inner' rest' (List.cons.inj heq).2)

theorem match_of_placeholder? (h : placeholder? cs = some inner) : ∃ rest, Match cs inner rest := by
  unfold placeholder? at h
  split at h
  · obtain ⟨rest, rfl, hline, hfirst⟩ := closing?_eq_some h
    exact ⟨rest, rfl, hline, hfirst⟩
  · cases h

theorem Match.placeholder? (h : Match cs inner rest) : placeholder? cs = some inner := by
  obtain ⟨rfl, hline, hfirst⟩ := h
  obtain ⟨found, hfound⟩ := Option.isSome_iff_exists.mp
    (closing?_isSome_iff.mpr ⟨inner, rest, rfl, hline⟩)
  obtain ⟨tail, heq, -, hfirst'⟩ := closing?_eq_some hfound
  -- both end at the first two closing braces
  have hlength : inner.length = found.length :=
    Nat.le_antisymm (hfirst found tail heq) (hfirst' inner rest rfl)
  obtain rfl : inner = found := (List.append_inj heq hlength).1
  exact hfound

/-- Braces that are closed on their line start a placeholder. -/
theorem ClosesOnLine.exists_match (h : ClosesOnLine cs) :
    ∃ inner rest, Match ('\x7b' :: '\x7b' :: cs) inner rest := by
  obtain ⟨inner, hinner⟩ := Option.isSome_iff_exists.mp (closing?_isSome_iff.mpr h)
  exact ⟨inner, match_of_placeholder? hinner⟩

theorem Match.length_lt (h : Match cs inner rest) : rest.length < cs.length := by
  rw [h.eq]
  simp only [List.length_cons, List.length_append]
  omega

/-! ## All pieces -/

@[simp] theorem pieces_nil : pieces [] = [] := rfl

theorem Match.pieces_eq (h : Match cs inner rest) :
    pieces cs = .placeholder inner :: pieces rest := by
  have hfound := h.placeholder?
  obtain ⟨rfl, -, -⟩ := h
  rw [pieces, piecesFrom, hfound]
  dsimp only
  rw [piecesFrom_drop]
  have hskip : ('\x7b' :: (inner ++ '\x7d' :: '\x7d' :: rest)).drop (inner.length + 3) = rest := by
    rw [List.drop_succ_cons, ← List.drop_drop, List.drop_left']
    · rfl
    · rfl
  rw [hskip]

theorem pieces_cons {c : Char} (h : ∀ inner rest, ¬ Match (c :: cs) inner rest) :
    pieces (c :: cs) = .literal c :: pieces cs := by
  have hnone : placeholder? (c :: cs) = none := by
    by_contra hsome
    obtain ⟨inner, hinner⟩ := Option.ne_none_iff_exists'.mp hsome
    obtain ⟨rest, hmatch⟩ := match_of_placeholder? hinner
    exact h inner rest hmatch
  rw [pieces, piecesFrom, hnone]
  rfl

@[elab_as_elim]
theorem pieces_cases {motive : List Char → Prop} (empty : motive [])
    (placeholder : ∀ cs inner rest, Match cs inner rest → motive rest → motive cs)
    (literal : ∀ c cs, (∀ inner rest, ¬ Match (c :: cs) inner rest) → motive cs → motive (c :: cs))
    (cs : List Char) : motive cs := by
  induction hlength : cs.length using Nat.strongRecOn generalizing cs with
  | _ n ih =>
      subst hlength
      by_cases hmatch : ∃ inner rest, Match cs inner rest
      · obtain ⟨inner, rest, h⟩ := hmatch
        exact placeholder cs inner rest h (ih _ h.length_lt rest rfl)
      · cases cs with
        | nil => exact empty
        | cons c cs =>
            exact literal c cs (fun inner rest h => hmatch ⟨inner, rest, h⟩)
              (ih _ (Nat.lt_succ_self _) cs rfl)

/-- The pieces are the template, cut up. -/
theorem flatMap_source_pieces (cs : List Char) : (pieces cs).flatMap Piece.source = cs := by
  induction cs using pieces_cases with
  | empty => rfl
  | placeholder cs inner rest h ih =>
      rw [h.pieces_eq, List.flatMap_cons, ih, h.eq]
      simp [Piece.source]
  | literal c cs h ih =>
      rw [pieces_cons h, List.flatMap_cons, ih]
      rfl

theorem line_of_mem_pieces (h : .placeholder inner ∈ pieces cs) : '\n' ∉ inner := by
  induction cs using pieces_cases with
  | empty => cases h
  | placeholder cs found rest hmatch ih =>
      rw [hmatch.pieces_eq] at h
      rcases List.mem_cons.mp h with heq | h
      · obtain rfl := Piece.placeholder.inj heq
        exact hmatch.line
      · exact ih h
  | literal c cs hmatch ih =>
      rw [pieces_cons hmatch] at h
      rcases List.mem_cons.mp h with heq | h
      · cases heq
      · exact ih h

/-! ## What the search finds -/

/-- What a search for placeholders from left to right finds in a text: each with the stretch before
it, and the stretch behind the last one. -/
inductive Scan : List Char → List (List Char × List Char) → List Char → Prop where
  | last {stretch : List Char}
      (none : ∀ before cs, stretch = before ++ cs → ∀ inner rest, ¬ Match cs inner rest) :
      Scan stretch [] stretch
  | next (stretch : List Char) {cs inner rest tail : List Char}
      {found : List (List Char × List Char)}
      (placeholder : Match cs inner rest)
      (leftmost : ∀ before behind, stretch ++ cs = before ++ behind →
        before.length < stretch.length → ∀ inner rest, ¬ Match behind inner rest)
      (more : Scan rest found tail) : Scan (stretch ++ cs) ((stretch, inner) :: found) tail

/-- A stretch and the placeholder behind it, as pieces. -/
def segment (p : List Char × List Char) : List Piece :=
  p.1.map .literal ++ [.placeholder p.2]

theorem pieces_append (stretch cs : List Char)
    (h : ∀ before behind, stretch ++ cs = before ++ behind → before.length < stretch.length →
      ∀ inner rest, ¬ Match behind inner rest) :
    pieces (stretch ++ cs) = stretch.map .literal ++ pieces cs := by
  induction stretch with
  | nil => rfl
  | cons c stretch ih =>
      have hhere := h [] (c :: stretch ++ cs) rfl (Nat.zero_lt_succ _)
      rw [List.cons_append] at hhere ⊢
      rw [pieces_cons hhere, ih, List.map_cons, List.cons_append]
      intro before behind heq hlength
      exact h (c :: before) behind (congrArg _ heq) (Nat.succ_lt_succ hlength)

theorem not_match_nil : ¬ Match [] inner rest := fun h => nomatch h.eq

theorem Scan.pieces_eq {found : List (List Char × List Char)} {tail : List Char}
    (h : Scan cs found tail) : pieces cs = found.flatMap segment ++ tail.map .literal := by
  induction h with
  | @last stretch none =>
      have happend := pieces_append stretch [] fun before behind heq _ =>
        none before behind ((List.append_nil _).symm.trans heq)
      rwa [List.append_nil, pieces_nil, List.append_nil] at happend
  | next stretch placeholder leftmost _ ih =>
      rw [pieces_append stretch _ leftmost, placeholder.pieces_eq, ih, List.flatMap_cons, segment]
      simp only [List.append_assoc, List.cons_append, List.nil_append]

theorem Scan.placeholder_mem {found : List (List Char × List Char)} {tail : List Char}
    {p : List Char × List Char} (h : Scan cs found tail) (hp : p ∈ found) :
    .placeholder p.2 ∈ pieces cs := by
  rw [h.pieces_eq]
  refine List.mem_append_left _ (List.mem_flatMap.mpr ⟨p, hp, ?_⟩)
  exact List.mem_append_right _ (List.mem_singleton_self _)

/-- A character at which no placeholder starts belongs to the stretch in front of the first one. -/
theorem Scan.cons {c : Char} {found : List (List Char × List Char)} {tail : List Char}
    (hnone : ∀ inner rest, ¬ Match (c :: cs) inner rest) (h : Scan cs found tail) :
    ∃ found' tail', Scan (c :: cs) found' tail' := by
  cases h with
  | last none =>
      refine ⟨[], c :: cs, .last ?_⟩
      intro before behind heq
      cases before with
      | nil =>
          obtain rfl : c :: cs = behind := heq
          exact hnone
      | cons d before => exact none before behind (List.cons.inj heq).2
  | @next stretch cs inner rest tail found placeholder leftmost more =>
      refine ⟨(c :: stretch, inner) :: found, tail, .next (c :: stretch) placeholder ?_
        more⟩
      intro before behind heq hlength
      cases before with
      | nil =>
          obtain rfl : c :: (stretch ++ cs) = behind := heq
          exact hnone
      | cons d before =>
          exact leftmost before behind (List.cons.inj heq).2 (Nat.lt_of_succ_lt_succ hlength)

theorem exists_scan (cs : List Char) : ∃ found tail, Scan cs found tail := by
  induction cs using pieces_cases with
  | empty =>
      refine ⟨[], [], .last ?_⟩
      intro before cs heq
      obtain ⟨-, rfl⟩ := List.nil_eq_append_iff.mp heq
      exact fun _ _ => not_match_nil
  | placeholder cs inner rest h ih =>
      obtain ⟨found, tail, hscan⟩ := ih
      exact ⟨([], inner) :: found, tail,
        .next [] h (fun _ _ _ hlength => absurd hlength (Nat.not_lt_zero _)) hscan⟩
  | literal c cs h ih =>
      obtain ⟨found, tail, hscan⟩ := ih
      exact hscan.cons h

/-! ## Two opening braces anywhere in a template -/

/-- The two characters behind `pre` belong to the placeholder `inner` behind `before`. -/
def Covers (before : List Piece) (inner pre : List Char) : Prop :=
  (before.flatMap Piece.source).length ≤ pre.length ∧
    pre.length ≤ (before.flatMap Piece.source).length + inner.length

/-- Opening braces in a text that starts with a placeholder are part of it or stand behind it. -/
theorem Match.braces {behind : List Char} (h : Match cs inner behind)
    (hbraces : cs = pre ++ '\x7b' :: '\x7b' :: rest) :
    pre.length ≤ inner.length ∨ ∃ pre', pre = (Piece.placeholder inner).source ++ pre' ∧
      behind = pre' ++ '\x7b' :: '\x7b' :: rest := by
  have heq : (Piece.placeholder inner).source ++ behind = pre ++ '\x7b' :: '\x7b' :: rest := by
    rw [← hbraces, h.eq]
    simp [Piece.source]
  have hlength : (Piece.placeholder inner).source.length = inner.length + 4 := by
    simp [Piece.source]
  have hclosing (i : Nat) (hi : i < 2) : cs[inner.length + 2 + i]? = some '\x7d' := by
    rw [h.eq]
    match i, hi with
    | 0, _ => simp
    | 1, _ => simp
  have hopening (i : Nat) (hi : i < 2) : cs[pre.length + i]? = some '\x7b' := by
    rw [hbraces]
    match i, hi with
    | 0, _ => simp
    | 1, _ => simp
  -- the opening braces cannot share a place with the closing ones, so none of them lies astride
  have hapart (i j : Nat) (hi : i < 2) (hj : j < 2) : inner.length + 2 + i ≠ pre.length + j := by
    intro hsame
    have hboth := (hclosing i hi).symm.trans (hsame ▸ hopening j hj)
    exact absurd (Option.some.inj hboth) (by decide)
  by_cases hshort : pre.length ≤ inner.length
  · exact .inl hshort
  · have hbehind : (Piece.placeholder inner).source.length ≤ pre.length := by
      have h00 := hapart 0 0
      have h10 := hapart 1 0
      have h01 := hapart 0 1
      omega
    have hpre : pre <+: (Piece.placeholder inner).source ++ behind := by
      rw [heq]
      exact List.prefix_append _ _
    obtain ⟨pre', rfl⟩ := List.prefix_of_prefix_length_le (List.prefix_append _ _) hpre hbehind
    rw [List.append_assoc] at heq
    exact .inr ⟨pre', rfl, List.append_cancel_left heq⟩

theorem Covers.cons {before : List Piece} {piece : Piece} (h : Covers before inner pre) :
    Covers (piece :: before) inner (piece.source ++ pre) := by
  simp only [Covers, List.flatMap_cons, List.length_append] at h ⊢
  omega

/-- Braces that are closed on their line belong to a placeholder. -/
theorem ClosesOnLine.exists_covers (h : ClosesOnLine rest)
    (hbraces : cs = pre ++ '\x7b' :: '\x7b' :: rest) :
    ∃ before inner after, pieces cs = before ++ .placeholder inner :: after ∧
      Covers before inner pre := by
  induction cs using pieces_cases generalizing pre with
  | empty => simp at hbraces
  | placeholder cs inner behind hmatch ih =>
      rcases hmatch.braces hbraces with hpart | ⟨pre', rfl, hbehind⟩
      · refine ⟨[], inner, pieces behind, hmatch.pieces_eq, Nat.zero_le _, ?_⟩
        simpa using hpart
      · obtain ⟨before, found, after, hpieces, hcovers⟩ := ih hbehind
        refine ⟨.placeholder inner :: before, found, after, ?_, hcovers.cons⟩
        rw [hmatch.pieces_eq, hpieces, List.cons_append]
  | literal c cs hnone ih =>
      cases pre with
      | nil =>
          obtain ⟨rfl, rfl⟩ := List.cons.inj hbraces
          obtain ⟨inner, behind, hmatch⟩ := h.exists_match
          exact absurd hmatch (hnone inner behind)
      | cons d pre =>
          obtain ⟨rfl, hrest⟩ := List.cons.inj hbraces
          obtain ⟨before, found, after, hpieces, hcovers⟩ := ih hrest
          refine ⟨.literal c :: before, found, after, ?_, hcovers.cons⟩
          rw [pieces_cons hnone, hpieces, List.cons_append]

/-- Braces that belong to a placeholder are closed on their line. -/
theorem closesOnLine_of_covers {before after : List Piece}
    (hpieces : pieces cs = before ++ .placeholder inner :: after)
    (hcovers : Covers before inner pre)
    (hbraces : cs = pre ++ '\x7b' :: '\x7b' :: rest) : ClosesOnLine rest := by
  have hmem : .placeholder inner ∈ pieces cs := by
    rw [hpieces]
    exact List.mem_append_right _ List.mem_cons_self
  have hline := line_of_mem_pieces hmem
  have hsource : cs = before.flatMap Piece.source ++
      ('\x7b' :: '\x7b' :: (inner ++ '\x7d' :: '\x7d' :: after.flatMap Piece.source)) := by
    rw [← flatMap_source_pieces cs, hpieces]
    simp [Piece.source]
  obtain ⟨hstart, hend⟩ := hcovers
  -- what is left of the placeholder behind the braces
  obtain ⟨k, hk⟩ := Nat.exists_eq_add_of_le hstart
  refine ⟨inner.drop k, after.flatMap Piece.source, ?_, fun h => hline (List.mem_of_mem_drop h)⟩
  have hrest : rest = cs.drop (pre.length + 2) := by
    rw [hbraces, ← List.drop_drop, List.drop_left]
    rfl
  have hdrop : cs.drop (pre.length + 2) =
      (inner ++ '\x7d' :: '\x7d' :: after.flatMap Piece.source).drop k := by
    rw [hsource, hk, Nat.add_assoc, ← List.drop_drop, List.drop_left]
    rfl
  rw [hrest, hdrop, List.drop_append_of_le_length (by omega)]

/-- Braces that are not closed on their line stay as they are. -/
theorem exists_literal_of_not_closesOnLine (h : ¬ ClosesOnLine rest)
    (hbraces : cs = pre ++ '\x7b' :: '\x7b' :: rest) :
    ∃ before after, pieces cs = before ++ .literal '\x7b' :: .literal '\x7b' :: after ∧
      before.flatMap Piece.source = pre := by
  induction cs using pieces_cases generalizing pre with
  | empty => simp at hbraces
  | placeholder cs inner behind hmatch ih =>
      rcases hmatch.braces hbraces with hpart | ⟨pre', rfl, hbehind⟩
      · have hcovers : Covers [] inner pre := ⟨Nat.zero_le _, by simpa using hpart⟩
        exact absurd (closesOnLine_of_covers hmatch.pieces_eq hcovers hbraces) h
      · obtain ⟨before, after, hpieces, rfl⟩ := ih hbehind
        refine ⟨.placeholder inner :: before, after, ?_, List.flatMap_cons⟩
        rw [hmatch.pieces_eq, hpieces, List.cons_append]
  | literal c cs hnone ih =>
      cases pre with
      | nil =>
          obtain ⟨rfl, rfl⟩ := List.cons.inj hbraces
          refine ⟨[], pieces rest, ?_, rfl⟩
          rw [pieces_cons hnone, pieces_cons, List.nil_append]
          rintro inner behind hmatch
          -- a placeholder at the second brace would be closed on the line too
          obtain ⟨-, hrest⟩ := List.cons.inj hmatch.eq
          exact h ⟨'\x7b' :: inner, behind, hrest, by simp [hmatch.line]⟩
      | cons d pre =>
          obtain ⟨rfl, hrest⟩ := List.cons.inj hbraces
          obtain ⟨before, after, hpieces, rfl⟩ := ih hrest
          refine ⟨.literal c :: before, after, ?_, List.flatMap_cons⟩
          rw [pieces_cons hnone, hpieces, List.cons_append]

end NodeGraph.Template
