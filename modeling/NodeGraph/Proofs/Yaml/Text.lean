import NodeGraph.Proofs.Outcome
import NodeGraph.Proofs.Yaml.Lexing

/-!
# Texts in documents

Every text is one token in the style that is chosen for it, and is read back from it, except for
texts between double marks that are broken behind an escape far to the right.
-/

namespace NodeGraph.Yaml

open Printer

variable {split : Bool} {indent column : ℕ} {cs w rest : List Char} {s : String}

/-! ## Plain texts -/

/-- What follows a word decides about an indicator only if the word is a single character. -/
theorem startsLikeIndicator_word {more tail : List Char} (hword : IsWord w)
    (hmore : isGap (more.headD '\x00') = true)
    (htail : isGap (tail.headD '\x00') = true ∨ tail.head? = some ':')
    (h : startsLikeIndicator (w ++ more) = false) : startsLikeIndicator (w ++ tail) = false := by
  have hprefix : ∀ x xs, x = '-' ∨ x = '.' → (x :: xs).isPrefixOf tail = false := by
    intro x xs hx
    cases tail with
    | nil => rfl
    | cons y tail =>
        have hy : x ≠ y := by
          rintro rfl
          rcases hx with rfl | rfl <;> rcases htail with hgap | hcolon
          · cases hgap
          · cases hcolon
          · cases hgap
          · cases hcolon
        simp [List.isPrefixOf, hy]
  have hdash := fun xs => hprefix '-' xs (.inl rfl)
  have hdot := fun xs => hprefix '.' xs (.inr rfl)
  match w, hword.ne_nil, h with
  | [x], _, h =>
      simp only [startsLikeIndicator, List.cons_append, List.nil_append, hmore] at h
      simp at h
      simp [startsLikeIndicator, List.isPrefixOf, hdot, hdash, h]
  | [x, y], _, h =>
      simp [startsLikeIndicator, List.isPrefixOf] at h
      simpa [startsLikeIndicator, List.isPrefixOf, hdot, hdash, h.1.1.1] using h.1.1.2
  | x :: y :: z :: w, _, h => simpa [startsLikeIndicator, List.isPrefixOf] using h

/-- The first word of a plain text and of what is written for it. -/
theorem PlainText.exists_word (h : PlainText cs) (split : Bool) (indent column : ℕ) :
    ∃ w more more', IsWord w ∧ cs = w ++ more ∧ plainFrom split indent column cs = w ++ more' ∧
      isGap (more.headD '\x00') = true ∧
        (more' = [] ∨ isGap (more'.headD '\x00') = true) := by
  cases h with
  | word hword =>
      refine ⟨cs, [], [], hword, by simp, ?_, rfl, .inl rfl⟩
      have hwritten : plainFrom split indent column (cs ++ []) = cs ++ _ :=
        plainFrom_word fun c hc => (hword.chars c hc).2
      rwa [List.append_nil, plainFrom] at hwritten
  | @spaces w text k hword htext =>
      refine ⟨w, _, _, hword, rfl, plainFrom_word fun c hc => (hword.chars c hc).2, rfl, .inr ?_⟩
      rcases plainFrom_spaces split indent (column + w.length) k htext.head_ne with
        hsame | ⟨rfl, hline⟩
      · rw [hsame]
        rfl
      · rw [hline]
        rfl

theorem spells_plain {outer : ℕ} (hne : cs ≠ []) (h : allowsPlain cs = true) (hindent : 0 < indent)
    (houter : outer ≤ indent) : Spells outer cs true (plainFrom split indent column cs) := by
  have htext := plainText_of_allowsPlain hne h
  refine .plain (htext.readsPlain hindent houter column) fun rest hends => ?_
  have hstart : startsLikeIndicator cs = false := by
    simp only [allowsPlain, Bool.and_eq_true, Bool.not_eq_true'] at h
    exact h.1.2
  obtain ⟨w, more, more', hword, rfl, hwritten, hmore, hmore'⟩ :=
    htext.exists_word split indent column
  rw [hwritten, List.append_assoc]
  refine startsLikeIndicator_word hword hmore ?_ hstart
  rcases hmore' with rfl | hgap
  · cases hends with
    | colon => exact .inr rfl
    | line => exact .inl rfl
  · cases more' with
    | nil =>
        cases hends with
        | colon => exact .inr rfl
        | line => exact .inl rfl
    | cons => exact .inl hgap

theorem plainFrom_unsplit : plainFrom false indent column cs = cs := by
  fun_induction plainFrom false indent column cs with
  | case1 => rfl
  | case2 column rest spaces ih => rw [ih, List.take_append_drop]
  | case3 column rest _ hsplit => exact absurd hsplit.1 Bool.false_ne_true
  | case4 column rest _ _ ih => rw [ih]
  | case5 column c rest _ _ ih => rw [ih]

/-- A text that may stand plain may stand as it is. -/
theorem spells_unsplit (indent : ℕ) (hne : cs ≠ []) (h : allowsPlain cs = true) :
    Spells indent cs true cs := by
  have hspells : Spells indent cs true (plainFrom false (indent + 1) 0 cs) :=
    spells_plain hne h (Nat.succ_pos _) (Nat.le_succ _)
  rwa [plainFrom_unsplit] at hspells

/-! ## Texts in their styles -/

/-- The text that is read where a text is written at an indentation. -/
def rereadText (isKey : Bool) (indent column : ℕ) (s : String) : String :=
  match styleOf isKey s with
  | .double =>
    let printed := doubleFrom (!isKey) indent true false (column + 1) s.toList ++ ['\x22']
    match quoted true printed.length ⟨printed, 0, 0, 0⟩ with
    | .ok (text, _) => String.ofList text
    | .error _ => s
  | _ => s

/-- Whether nothing in a text at this indentation is lost where its lines are broken. -/
def Survives (isKey : Bool) (indent : ℕ) (s : String) : Prop :=
  isKey = false → width ≤ indent → styleOf false s = .double → SpacesLast true s.toList

theorem toList_ne_nil_of_ofPlain (h : Tag.ofPlain s ≠ .null) : s.toList ≠ [] := by
  intro hnil
  obtain rfl : s = "" := String.toList_eq_nil_iff.mp hnil
  revert h
  decide

theorem of_styleOf_plain {isKey : Bool} (h : styleOf isKey s = .plain) :
    Tag.ofPlain s = .str ∧ allowsPlain s.toList = true := by
  simp only [styleOf] at h
  split at h
  · rename_i hplain
    simpa using hplain
  · split at h <;> cases h

theorem of_styleOf_single {isKey : Bool} (h : styleOf isKey s = .single) :
    allowsSingle s.toList = true ∧ (isKey = true → s.toList.any isTextBreak = false) := by
  simp only [styleOf] at h
  split at h
  · cases h
  · split at h
    · rename_i hsingle
      simp only [Bool.and_eq_true, Bool.not_eq_true', Bool.and_eq_false_iff] at hsingle
      exact ⟨hsingle.1, fun hkey => hsingle.2.resolve_left (by simp [hkey])⟩
    · cases h

/-- A text is one token, plain or quoted according to its style. -/
theorem spells_textAt (isKey : Bool) (column : ℕ) (s : String) {outer : ℕ} (hindent : 0 < indent)
    (houter : outer ≤ indent) :
    Spells outer (rereadText isKey indent column s).toList (decide (styleOf isKey s = .plain))
        (textAt isKey indent column s) ∧
      (Survives isKey indent s → rereadText isKey indent column s = s) := by
  unfold textAt rereadText Survives
  cases hstyle : styleOf isKey s with
  | plain =>
      obtain ⟨hstr, hplain⟩ := of_styleOf_plain hstyle
      have hne : s.toList ≠ [] := toList_ne_nil_of_ofPlain (by simp [hstr])
      exact ⟨spells_plain hne hplain hindent houter, fun _ => rfl⟩
  | single =>
      have hsingle := isSingle_of_allowsSingle (of_styleOf_single hstyle).1
      exact ⟨.quoted false (quotes_singleFrom hsingle hindent), fun _ => rfl⟩
  | double =>
      set printed := doubleFrom (!isKey) indent true false (column + 1) s.toList ++ ['\x22']
        with hprinted
      obtain ⟨text, hquotes, heq⟩ : ReadsDouble (!isKey) indent true s.toList printed :=
        readsDouble_doubleFrom hindent
      have hread : quoted true printed.length ⟨printed, 0, 0, 0⟩ =
          .ok (text, Cursor.skip ⟨printed, 0, 0, 0⟩ printed.length) :=
        hquotes 0 (by simp) (List.append_nil _).symm le_rfl
      simp only [hread]
      rw [String.toList_ofList]
      refine ⟨.quoted true (hquotes 0), fun hsurvives => ?_⟩
      rw [heq, String.ofList_toList]
      intro hsplit hwidth
      have hkey : isKey = false := by simpa using hsplit
      exact hsurvives hkey hwidth (hkey ▸ hstyle)

theorem rereadText_key (indent column : ℕ) (s : String) (hindent : 0 < indent) :
    rereadText true indent column s = s :=
  (spells_textAt true column s hindent (Nat.zero_le indent)).2 fun hkey => by cases hkey

/-! ## Keys on one line -/

theorem singleFrom_unsplit {first : Bool} (h : '\n' ∉ cs) :
    singleFrom false indent first column cs =
      cs.flatMap fun c => if c = '\x27' then [c, c] else [c] := by
  fun_induction singleFrom false indent first column cs with
  | case1 => rfl
  | case2 => exact absurd List.mem_cons_self h
  | case3 first column rest spaces ih =>
      obtain ⟨n, ds, hrest, hn, hds⟩ := takeWhile_run ' ' rest
      have hspaces : spaces = n := hn
      clear_value spaces
      subst hspaces hrest
      rw [List.drop_left' List.length_replicate] at ih ⊢
      rw [ih fun hmem => h (by simp [hmem]), List.take_left' List.length_replicate]
      simp [List.flatMap_replicate]
  | case4 first column rest _ hsplit => exact absurd hsplit.1 Bool.false_ne_true
  | case5 first column rest _ _ ih =>
      rw [ih fun hmem => h (List.mem_cons_of_mem _ hmem)]
      rfl
  | case6 first column rest _ _ _ ih =>
      rw [ih fun hmem => h (List.mem_cons_of_mem _ hmem)]
      rfl
  | case7 first column c rest _ _ _ hquote ih =>
      rw [ih fun hmem => h (List.mem_cons_of_mem _ hmem)]
      simp [hquote]

theorem doubleFrom_unsplit {first afterEscape : Bool} :
    doubleFrom false indent first afterEscape column cs =
      cs.flatMap fun c => (escapeOf? c).getD [c] := by
  induction cs generalizing first afterEscape column with
  | nil => rfl
  | cons c cs ih =>
      rw [doubleFrom, List.flatMap_cons]
      cases escapeOf? c with
      | some code => simp [ih]
      | none => simp [ih]

theorem not_mem_of_styleOf_single (h : styleOf true s = .single) : '\n' ∉ s.toList := by
  have hnone := (of_styleOf_single h).2 rfl
  rw [List.any_eq_false] at hnone
  exact fun hmem => hnone _ hmem rfl

/-- How a key is written does not depend on where it stands. -/
theorem textAt_key (indent column : ℕ) (s : String) :
    textAt true indent column s = textAt true 0 0 s := by
  unfold textAt
  cases hstyle : styleOf true s with
  | plain => simp only [Bool.not_true, plainFrom_unsplit]
  | single => simp only [Bool.not_true, singleFrom_unsplit (not_mem_of_styleOf_single hstyle)]
  | double => simp only [Bool.not_true, doubleFrom_unsplit]

theorem length_flatMap_le {f : Char → List Char} {n : ℕ} (h : ∀ c, (f c).length ≤ n)
    (cs : List Char) : (cs.flatMap f).length ≤ n * cs.length := by
  induction cs with
  | nil => simp
  | cons c cs ih =>
      rw [List.flatMap_cons, List.length_append, List.length_cons, Nat.mul_succ]
      have := h c
      omega

/-- A key takes ten characters for each of its own at most, and two quotation marks. -/
theorem length_textAt_key (indent column : ℕ) (s : String) :
    (textAt true indent column s).length ≤ 10 * s.length + 2 := by
  rw [← String.length_toList]
  unfold textAt
  cases hstyle : styleOf true s with
  | plain =>
      simp only [Bool.not_true, plainFrom_unsplit]
      omega
  | single =>
      have hcode : ∀ c, (if c = '\x27' then [c, c] else [c]).length ≤ 10 := by
        intro c
        split <;> simp
      have hlength := length_flatMap_le hcode s.toList
      simp only [Bool.not_true, singleFrom_unsplit (not_mem_of_styleOf_single hstyle),
        List.length_append, List.length_cons, List.length_nil]
      omega
  | double =>
      have hcode : ∀ c, ((escapeOf? c).getD [c]).length ≤ 10 := by
        intro c
        cases hescape : escapeOf? c with
        | some code => exact length_escapeOf? hescape
        | none => simp
      have hlength := length_flatMap_le hcode s.toList
      simp only [Bool.not_true, doubleFrom_unsplit, List.length_append, List.length_cons,
        List.length_nil]
      omega

/-! ## Characters of a text -/

/-- The characters that a document is written with. -/
def isWritten (c : Char) : Bool := isPlainAscii c || c = '\n'

theorem isWritten_of_isPlainAscii {c : Char} (h : isPlainAscii c = true) : isWritten c = true := by
  rw [isWritten, h, Bool.true_or]

theorem isWritten_iff {c : Char} : isWritten c = true ↔ isPlainAscii c = true ∨ c = '\n' := by
  rw [isWritten, Bool.or_eq_true, decide_eq_true_eq]

theorem isPlainAscii_of_allowsPlain (h : allowsPlain cs = true) :
    ∀ c ∈ cs, isPlainAscii c = true := by
  simp only [allowsPlain, Bool.and_eq_true, List.all_eq_true] at h
  exact h.1.1.1.1

theorem isPlainAscii_of_baseDigit {base : ℕ} {c : Char} {d : ℕ} (h : baseDigit? base c = some d) :
    isPlainAscii c = true := by
  rw [isPlainAscii, Bool.and_eq_true, decide_eq_true_eq, decide_eq_true_eq]
  simp only [baseDigit?, Option.filter_eq_some_iff] at h
  have hvalue := h.1
  simp only [Char.le_def, UInt32.le_iff_toNat_le, Char.reduceVal, UInt32.reduceToNat] at hvalue ⊢
  split_ifs at hvalue <;> omega

theorem isPlainAscii_upperHex {digits n : ℕ} {c : Char} (hc : c ∈ upperHex digits n) :
    isPlainAscii c = true := by
  obtain ⟨ds, hread, -⟩ := upperHex_spec digits n
  obtain ⟨d, -, hd⟩ := exists_value_of_mapM hread hc
  exact isPlainAscii_of_baseDigit hd

theorem isPlainAscii_escape {ch c : Char} {code : List Char} (h : escapeOf? ch = some code)
    (hc : c ∈ code) : isPlainAscii c = true := by
  unfold escapeOf? at h
  split at h
  · rename_i letter hletter
    cases h
    rcases List.mem_cons.mp hc with rfl | hc
    · rfl
    · obtain rfl := List.mem_singleton.mp hc
      unfold escapeLetter? at hletter
      split at hletter <;> cases hletter <;> rfl
  · have hcode : ∃ letter digits, isPlainAscii letter = true ∧
        code = '\\' :: letter :: upperHex digits ch.toNat := by
      split_ifs at h <;> cases h
      · exact ⟨'x', 2, rfl, rfl⟩
      · exact ⟨'u', 4, rfl, rfl⟩
      · exact ⟨'U', 8, rfl, rfl⟩
    obtain ⟨letter, digits, hletter, rfl⟩ := hcode
    rcases List.mem_cons.mp hc with rfl | hc
    · rfl
    rcases List.mem_cons.mp hc with rfl | hc
    · exact hletter
    · exact isPlainAscii_upperHex hc

theorem isWritten_of_mem_lineBreak {n : ℕ} {c : Char} (hc : c ∈ lineBreak n) :
    isWritten c = true := by
  rcases List.mem_cons.mp hc with rfl | hc
  · rfl
  · obtain rfl := List.eq_of_mem_replicate hc
    rfl

theorem all_isWritten_lineBreak (n : ℕ) : (lineBreak n).all isWritten = true :=
  List.all_eq_true.mpr fun _ => isWritten_of_mem_lineBreak

/-- Where a text is broken, only line breaks and spaces come in. -/
theorem isWritten_of_mem_plainFrom (h : ∀ c ∈ cs, isWritten c = true) {c : Char}
    (hc : c ∈ plainFrom split indent column cs) : isWritten c = true := by
  fun_induction plainFrom split indent column cs with
  | case1 => cases hc
  | case2 column rest spaces ih => grind [List.mem_of_mem_drop, List.mem_of_mem_take]
  | case3 column rest _ hsplit ih => grind [isWritten_of_mem_lineBreak]
  | case4 column rest _ _ ih => grind
  | case5 column c rest _ _ ih => grind

theorem isWritten_of_mem_singleFrom {first : Bool} (h : ∀ c ∈ cs, isWritten c = true) {c : Char}
    (hc : c ∈ singleFrom split indent first column cs) : isWritten c = true := by
  fun_induction singleFrom split indent first column cs with
  | case1 => cases hc
  | case2 => grind [List.mem_of_mem_drop, List.mem_of_mem_take, isWritten_of_mem_lineBreak]
  | case3 first column rest spaces ih => grind [List.mem_of_mem_drop, List.mem_of_mem_take]
  | case4 first column rest _ hsplit => grind [isWritten_of_mem_lineBreak]
  | case5 first column rest _ _ ih => grind
  | case6 first column rest _ _ ih => grind
  | case7 first column c rest _ _ _ hquote ih => grind

theorem isWritten_of_mem_escapedBreak {n : ℕ} {c : Char} (hc : c ∈ escapedBreak n cs) :
    isWritten c = true := by
  rw [escapedBreak, List.cons_append] at hc
  rcases List.mem_cons.mp hc with rfl | hc
  · rfl
  · rcases List.mem_append.mp hc with hc | hc
    · exact isWritten_of_mem_lineBreak hc
    · split_ifs at hc
      · obtain rfl := List.mem_singleton.mp hc
        rfl
      · cases hc

theorem isWritten_of_mem_doubleFrom {first afterEscape : Bool} {c : Char}
    (hc : c ∈ doubleFrom split indent first afterEscape column cs) : isWritten c = true := by
  induction cs generalizing first afterEscape column with
  | nil => cases hc
  | cons x cs ih =>
      rw [doubleFrom] at hc
      cases hescape : escapeOf? x with
      | some code =>
          simp only [hescape] at hc
          have hcode := fun hc => isWritten_of_isPlainAscii (isPlainAscii_escape (c := c) hescape hc)
          grind [isWritten_of_mem_escapedBreak]
      | none =>
          simp only [hescape] at hc
          have hx : isWritten x = true := isWritten_of_isPlainAscii (escapeOf?_eq_none hescape).1
          grind [isWritten_of_mem_escapedBreak]

theorem isWritten_of_mem_textAt {isKey : Bool} {c : Char}
    (hc : c ∈ textAt isKey indent column s) : isWritten c = true := by
  unfold textAt at hc
  cases hstyle : styleOf isKey s with
  | plain =>
      simp only [hstyle] at hc
      have hplain := isPlainAscii_of_allowsPlain (of_styleOf_plain hstyle).2
      exact isWritten_of_mem_plainFrom (fun c hc => isWritten_of_isPlainAscii (hplain c hc)) hc
  | single =>
      have hsingle := isSingle_of_allowsSingle (of_styleOf_single hstyle).1
      simp only [hstyle, List.cons_append, List.mem_cons, List.mem_append, List.not_mem_nil,
        or_false] at hc
      rcases hc with rfl | hc | rfl
      · rfl
      · exact isWritten_of_mem_singleFrom (fun c hc => isWritten_iff.mpr (hsingle.chars c hc)) hc
      · rfl
  | double =>
      simp only [hstyle, List.cons_append, List.mem_cons, List.mem_append, List.not_mem_nil,
        or_false] at hc
      rcases hc with rfl | hc | rfl
      · rfl
      · exact isWritten_of_mem_doubleFrom hc
      · rfl

/-- A key stands on one line. -/
theorem isPlainAscii_of_mem_textAt_key {c : Char} (hc : c ∈ textAt true indent column s) :
    isPlainAscii c = true := by
  unfold textAt at hc
  cases hstyle : styleOf true s with
  | plain =>
      simp only [hstyle, Bool.not_true, plainFrom_unsplit] at hc
      exact isPlainAscii_of_allowsPlain (of_styleOf_plain hstyle).2 c hc
  | single =>
      have hbreak := not_mem_of_styleOf_single hstyle
      have hsingle := isSingle_of_allowsSingle (of_styleOf_single hstyle).1
      simp only [hstyle, Bool.not_true, singleFrom_unsplit hbreak, List.cons_append, List.mem_cons,
        List.mem_append, List.mem_flatMap, List.not_mem_nil, or_false] at hc
      rcases hc with rfl | ⟨x, hx, hc⟩ | rfl
      · rfl
      · obtain rfl : c = x := by
          split_ifs at hc <;> simpa using hc
        exact (hsingle.chars c hx).resolve_right fun hnewline => hbreak (hnewline ▸ hx)
      · rfl
  | double =>
      simp only [hstyle, Bool.not_true, doubleFrom_unsplit, List.cons_append, List.mem_cons,
        List.mem_append, List.mem_flatMap, List.not_mem_nil, or_false] at hc
      rcases hc with rfl | ⟨x, hx, hc⟩ | rfl
      · rfl
      · cases hescape : escapeOf? x with
        | some code =>
            rw [hescape] at hc
            exact isPlainAscii_escape hescape hc
        | none =>
            rw [hescape] at hc
            obtain rfl : c = x := by simpa using hc
            exact (escapeOf?_eq_none hescape).1
      · rfl

end NodeGraph.Yaml
