import NodeGraph.Pattern.Matching

/-!
# Cutting a text at the matches of a pattern

The matches of a pattern in a text are looked for from left to right, each one behind the end of the
one before. They cut the text into pieces, and pieces and matches together are the text again.

How a pattern goes on from a place depends on what stands before and behind the place, so the steps
of a match are read off a text that is given as a front and a rest.
-/

namespace NodeGraph.Pattern

/-- The text as patterns see it. -/
def subject (cs : List Char) : Subject := (cs.map Char.toNat).toArray

/-- How many characters the match has that starts at a place. -/
def lengthAt? (p : Pattern) (text : Subject) (index : Nat) : Option Nat :=
  (p.matcher text ⟨index, []⟩ some).map (·.index - index)

/-- The characters up to the next match, and the matches, each with the characters behind it. Of the
match before, `inside` characters are still to be passed. A match without characters does not
count. -/
def cutFrom (p : Pattern) (text : Subject) :
    Nat → Nat → List Char → List Char × List (List Char × List Char)
  | _, _, [] => ([], [])
  | index, inside + 1, _ :: rest => cutFrom p text (index + 1) inside rest
  | index, 0, c :: rest =>
    match p.lengthAt? text index with
    | some (n + 1) =>
      let (first, others) := cutFrom p text (index + 1) n rest
      ([], (c :: rest.take n, first) :: others)
    | _ =>
      let (first, others) := cutFrom p text (index + 1) 0 rest
      (c :: first, others)

/-- The pieces between the matches, the first one for itself and each other one with the match in
front of it. -/
def cut (p : Pattern) (cs : List Char) : List Char × List (List Char × List Char) :=
  p.cutFrom (subject cs) 0 0 cs

/-- Pieces and matches put together. -/
def join (pieces : List Char × List (List Char × List Char)) : List Char :=
  pieces.1 ++ pieces.2.flatMap fun (found, piece) => found ++ piece

variable {p : Pattern} {text : Subject} {front run rest after : List Char} {c : Char}
  {test : Nat → Bool} {next : Continuation} {groups : List (Nat × Nat × Nat)}
  {index fuel done : Nat} {last : Option Nat}

/-! ## What cutting does -/

theorem join_cutFrom (p : Pattern) (text : Subject) (index inside : Nat) (cs : List Char) :
    join (p.cutFrom text index inside cs) = cs.drop inside := by
  induction cs generalizing index inside with
  | nil => simp [cutFrom, join]
  | cons c rest ih =>
      cases inside with
      | succ inside => exact ih (index + 1) inside
      | zero =>
          rw [cutFrom]
          split
          · rename_i n _
            calc join ([], (c :: rest.take n, _) :: _)
                = c :: rest.take n ++ join (p.cutFrom text (index + 1) n rest) := by simp [join]
              _ = c :: rest := by rw [ih, List.cons_append, List.take_append_drop]
          · exact congrArg (c :: ·) (ih (index + 1) 0)

theorem join_cut (p : Pattern) (cs : List Char) : join (p.cut cs) = cs := join_cutFrom p _ 0 0 cs

/-- The rest of a match is passed over. -/
theorem cutFrom_inside (p : Pattern) (text : Subject) (index : Nat) (run rest : List Char) :
    p.cutFrom text index run.length (run ++ rest) = p.cutFrom text (index + run.length) 0 rest := by
  induction run generalizing index with
  | nil => rfl
  | cons c run ih =>
      show p.cutFrom text (index + 1) run.length (run ++ rest) = _
      rw [ih, List.length_cons, Nat.add_assoc, Nat.add_comm 1]

theorem cutFrom_of_match (h : p.lengthAt? text index = some (c :: run).length) :
    p.cutFrom text index 0 (c :: run ++ rest) =
      ([], (c :: run, (p.cutFrom text (index + (c :: run).length) 0 rest).1) ::
        (p.cutFrom text (index + (c :: run).length) 0 rest).2) := by
  have hrest := cutFrom_inside p text (index + 1) run rest
  rw [Nat.add_assoc, Nat.add_comm 1] at hrest
  rw [List.cons_append, cutFrom, h]
  simp only [List.length_cons, hrest, List.take_left]

/-- Where no match starts, the characters belong to the piece. -/
theorem cutFrom_of_noMatch (h : ∀ i < run.length, p.lengthAt? text (index + i) = none) :
    p.cutFrom text index 0 (run ++ rest) =
      (run ++ (p.cutFrom text (index + run.length) 0 rest).1,
        (p.cutFrom text (index + run.length) 0 rest).2) := by
  induction run generalizing index with
  | nil => rfl
  | cons c run ih =>
      have hfirst : p.lengthAt? text index = none := h 0 (Nat.succ_pos _)
      have hrun : ∀ i < run.length, p.lengthAt? text (index + 1 + i) = none := by
        intro i hi
        rw [Nat.add_assoc, Nat.add_comm 1]
        exact h (i + 1) (Nat.succ_lt_succ hi)
      rw [List.cons_append, cutFrom, hfirst, ih hrun, List.length_cons, Nat.add_assoc,
        Nat.add_comm 1]
      rfl

/-! ## Steps of a match -/

theorem size_subject (cs : List Char) : (subject cs).size = cs.length := by simp [subject]

theorem getElem?_subject :
    (subject (front ++ rest))[front.length]? = rest.head?.map Char.toNat := by
  cases rest <;> simp [subject]

theorem one_of_test (htext : text = subject (front ++ c :: rest)) (hc : test c.toNat = true) :
    one text test ⟨front.length, groups⟩ next = next ⟨front.length + 1, groups⟩ := by
  subst htext
  rw [one, getElem?_subject]
  exact if_pos hc

theorem one_of_not_test (htext : text = subject (front ++ rest))
    (h : ∀ c ∈ rest.head?, test c.toNat = false) :
    one text test ⟨front.length, groups⟩ next = none := by
  subst htext
  rw [one, getElem?_subject]
  cases rest with
  | nil => rfl
  | cons c rest => exact if_neg (Bool.eq_false_iff.mp (h c rfl))

/-- One round of a greedy repetition of a character: on, if the character fits, or else behind. -/
theorem greedyLoop_succ (hlast : ∀ i ∈ last, i < index) :
    greedyLoop (one text test) 0 none (fuel + 1) done last ⟨index, groups⟩ next =
      (one text test ⟨index, groups⟩ fun place =>
        greedyLoop (one text test) 0 none fuel (done + 1) (some index) place next).orElse
          fun _ => next ⟨index, groups⟩ := by
  have hne : last ≠ some index := by
    rintro rfl
    exact Nat.lt_irrefl _ (hlast index rfl)
  simp only [greedyLoop, Nat.not_lt_zero, if_false, Option.all_none, hne, ne_eq, not_false_eq_true,
    and_self, if_true]

/-- A greedy repetition takes all characters that it can, if what comes next fits nowhere before. -/
theorem greedyLoop_one (htext : text = subject (front ++ (run ++ after)))
    (hrun : ∀ c ∈ run, test c.toNat = true) (hafter : ∀ c ∈ after.head?, test c.toNat = false)
    (hfuel : run.length < fuel) (hlast : ∀ i ∈ last, i < front.length)
    (hnext : ∀ i < run.length, next ⟨front.length + i, groups⟩ = none) :
    greedyLoop (one text test) 0 none fuel done last ⟨front.length, groups⟩ next =
      next ⟨front.length + run.length, groups⟩ := by
  induction run generalizing front fuel done last with
  | nil =>
      obtain ⟨fuel, rfl⟩ := Nat.exists_eq_add_one_of_ne_zero (Nat.ne_of_gt hfuel)
      rw [greedyLoop_succ hlast, one_of_not_test htext hafter]
      rfl
  | cons c run ih =>
      obtain ⟨hc, hrun⟩ := List.forall_mem_cons.mp hrun
      obtain ⟨fuel, rfl⟩ := Nat.exists_eq_add_one_of_ne_zero (Nat.ne_zero_of_lt hfuel)
      have hlength : (front ++ [c]).length = front.length + 1 := by simp
      have hbehind : ∀ i < run.length,
          next ⟨(front ++ [c]).length + i, groups⟩ = none := by
        intro i hi
        rw [hlength, Nat.add_assoc, Nat.add_comm 1]
        exact hnext (i + 1) (Nat.succ_lt_succ hi)
      have hrest : greedyLoop (one text test) 0 none fuel (done + 1) (some front.length)
          ⟨(front ++ [c]).length, groups⟩ next =
            next ⟨(front ++ [c]).length + run.length, groups⟩ :=
        ih (by simpa using htext) hrun (Nat.lt_of_succ_lt_succ hfuel) (by simp) hbehind
      have hnone : next ⟨front.length, groups⟩ = none := hnext 0 (Nat.succ_pos _)
      rw [hlength] at hrest
      rw [greedyLoop_succ hlast, one_of_test htext hc, hrest, hnone, List.length_cons,
        Nat.add_assoc, Nat.add_comm 1]
      cases next ⟨front.length + (run.length + 1), groups⟩ <;> rfl

/-- A character is a line feed if its code point is that of one. -/
theorem toNat_eq_ten_iff {c : Char} : c.toNat = 10 ↔ c = '\n' := by
  constructor
  · exact fun h => Char.toNat_inj.mp h
  · rintro rfl
    rfl

/-- Whether a line starts behind these characters: they are none, or a line feed is the last. -/
def startsLine (front : List Char) : Bool := front.getLast?.all (· = '\n')

/-- Whether a line ends in front of these characters. -/
def endsLine (rest : List Char) : Bool := rest.head?.all (· = '\n')

theorem startsLine_iff : startsLine front = true ↔ ∀ c ∈ front.getLast?, c = '\n' := by
  simp [startsLine, Option.all_eq_true]

theorem endsLine_iff : endsLine rest = true ↔ ∀ c ∈ rest.head?, c = '\n' := by
  simp [endsLine, Option.all_eq_true]

@[simp] theorem startsLine_append_newline : startsLine (front ++ ['\n']) = true := by
  simp [startsLine]

@[simp] theorem endsLine_nil : endsLine [] = true := rfl

@[simp] theorem endsLine_newline : endsLine ('\n' :: rest) = true := rfl

theorem matcher_lineStart (htext : text = subject (front ++ rest)) :
    matcher text (.anchor (.lineStart true)) ⟨front.length, groups⟩ next =
      if startsLine front then next ⟨front.length, groups⟩ else none := by
  have hholds : (Anchor.lineStart true).holds text front.length = startsLine front := by
    subst htext
    rcases List.eq_nil_or_concat front with rfl | ⟨earlier, c, rfl⟩
    · rfl
    · have hbefore : (subject (earlier ++ c :: rest))[earlier.length]? = some c.toNat :=
        getElem?_subject
      simp [Anchor.holds, startsLine, hbefore, toNat_eq_ten_iff]
  simp only [matcher, hholds]

theorem matcher_lineEnd (htext : text = subject (front ++ rest)) :
    matcher text (.anchor (.lineEnd true)) ⟨front.length, groups⟩ next =
      if endsLine rest then next ⟨front.length, groups⟩ else none := by
  have hholds : (Anchor.lineEnd true).holds text front.length = endsLine rest := by
    subst htext
    rw [Anchor.holds, size_subject, getElem?_subject]
    cases rest with
    | nil => simp [endsLine]
    | cons c rest => simp [endsLine, toNat_eq_ten_iff]
  simp only [matcher, hholds]

/-- The characters of a word, in the case that they have, match where the text goes on with them. -/
theorem matcher_literals {manner : Manner} {word : List Char} (hcase : manner.ignoreCase = false)
    (htext : text = subject (front ++ rest)) :
    matcher text (word.foldr (fun c => .andThen (.literal manner c.toNat)) p)
        ⟨front.length, groups⟩ next =
      if word <+: rest then matcher text p ⟨front.length + word.length, groups⟩ next else none := by
  induction word generalizing front rest with
  | nil => rw [if_pos List.nil_prefix]; rfl
  | cons w word ih =>
      have hfits : ∀ d, manner.sameCode w.toNat d.toNat = decide (w = d) := by
        intro d
        simp [Manner.sameCode, hcase, Bool.beq_eq_decide_eq, Char.toNat_inj]
      simp only [List.foldr_cons, matcher]
      cases rest with
      | nil =>
          rw [if_neg (by simp)]
          exact one_of_not_test htext nofun
      | cons c rest =>
          by_cases hc : w = c
          · subst hc
            have hrest : text = subject ((front ++ [w]) ++ rest) := by simpa using htext
            have hword := ih hrest
            rw [List.length_append, List.length_singleton, Nat.add_assoc, Nat.add_comm 1] at hword
            rw [one_of_test htext (by simp [hfits]), hword]
            simp only [List.cons_prefix_cons, true_and, List.length_cons]
          · have hother : ∀ d ∈ (c :: rest).head?, manner.sameCode w.toNat d.toNat = false := by
              simpa [hfits] using hc
            rw [if_neg fun h => hc (List.cons_prefix_cons.mp h).1]
            exact one_of_not_test htext hother

end NodeGraph.Pattern
