import Mathlib.Data.Nat.Digits.Defs
import Mathlib.Tactic.IntervalCases
import NodeGraph.Proofs.Yaml.Quoted

/-!
# Escapes

Between double quotation marks every character that needs an escape is read back from it: by its
letter, or by its number in hexadecimal. An escaped line break stands for nothing.
-/

namespace NodeGraph.Yaml

open Printer

/-! ## Hexadecimal numbers -/

/-- The uppercase digit for a hexadecimal digit. -/
def upperDigit (c : Char) : Char :=
  if 'a' ≤ c ∧ c ≤ 'f' then Char.ofNat (c.toNat - 32) else c

theorem upperHex_eq (width n : ℕ) :
    upperHex width n =
      List.replicate (width - (Nat.toDigits 16 n).length) '0' ++
        (Nat.toDigits 16 n).map upperDigit := by
  rw [upperHex, hexText, String.toList_ofList, List.map_append, List.map_replicate]
  rfl

theorem length_upperHex {width n : ℕ} (hwidth : 0 < width) (hn : n < 16 ^ width) :
    (upperHex width n).length = width := by
  have hlength := Nat.toDigits_length 16 n width hwidth hn
  rw [upperHex_eq, List.length_append, List.length_replicate, List.length_map]
  omega

theorem length_escapeOf? {c : Char} {code : List Char} (h : escapeOf? c = some code) :
    code.length ≤ 10 := by
  unfold escapeOf? at h
  split at h
  · cases h
    simp
  · split at h
    · cases h
    · split at h
      · rename_i hc
        cases h
        simp [@length_upperHex 2 _ (by decide) (Nat.lt_succ_of_le hc)]
      · split at h
        · rename_i hc
          cases h
          simp [@length_upperHex 4 _ (by decide) (Nat.lt_succ_of_le hc)]
        · cases h
          have hc : c.toNat < 16 ^ 8 := c.val.toNat_lt
          simp [length_upperHex (by decide) hc]

theorem baseDigit?_upperDigit {d : ℕ} (hd : d < 16) :
    baseDigit? 16 (upperDigit d.digitChar) = some d := by
  interval_cases d <;> decide

theorem ofDigits_append (base : ℕ) (xs : List ℕ) (d : ℕ) :
    ofDigits base (xs ++ [d]) = ofDigits base xs * base + d := by
  simp [ofDigits]

theorem ofDigits_zeros (base k : ℕ) (xs : List ℕ) :
    ofDigits base (List.replicate k 0 ++ xs) = ofDigits base xs := by
  induction k with
  | zero => rfl
  | succ k ih =>
      rw [← ih]
      simp [ofDigits, List.replicate_succ]

theorem exists_digits (n : ℕ) :
    ∃ ds, ((Nat.toDigits 16 n).map upperDigit).mapM (baseDigit? 16) = some ds ∧
      ds.length = (Nat.toDigits 16 n).length ∧ ofDigits 16 ds = n := by
  induction n using Nat.strong_induction_on with
  | _ n ih =>
      rw [Nat.toDigits_eq_if (by decide)]
      split
      · rename_i hn
        refine ⟨[n], ?_, rfl, by simp [ofDigits]⟩
        rw [List.map_singleton, List.mapM_cons, baseDigit?_upperDigit hn]
        rfl
      · rename_i hn
        obtain ⟨ds, hds, hlength, hvalue⟩ := ih (n / 16) (by omega)
        refine ⟨ds ++ [n % 16], ?_, by simp [hlength], by rw [ofDigits_append, hvalue]; omega⟩
        rw [List.map_append, List.mapM_append, hds, List.map_singleton, List.mapM_cons,
          baseDigit?_upperDigit (Nat.mod_lt n (by decide))]
        rfl

theorem mapM_zeros (k : ℕ) :
    (List.replicate k '0').mapM (baseDigit? 16) = some (List.replicate k 0) := by
  induction k with
  | zero => rfl
  | succ k ih =>
      rw [List.replicate_succ, List.mapM_cons, ih]
      rfl

/-- A number in hexadecimal is read back. -/
theorem upperHex_spec (width n : ℕ) :
    ∃ ds, (upperHex width n).mapM (baseDigit? 16) = some ds ∧
      ds.length = (upperHex width n).length ∧ ofDigits 16 ds = n := by
  obtain ⟨ds, hds, hlength, hvalue⟩ := exists_digits n
  set zeros := width - (Nat.toDigits 16 n).length with hzeros
  refine ⟨List.replicate zeros 0 ++ ds, ?_, ?_, by rw [ofDigits_zeros, hvalue]⟩
  · rw [upperHex_eq, List.mapM_append, mapM_zeros, hds]
    rfl
  · simp [upperHex_eq, hlength, hzeros]

/-! ## Escaped characters -/

section

variable {c : Cursor} {rest : List Char} {ch letter : Char}

/-- Every character has a number below this one. -/
theorem charToNat_lt (ch : Char) : ch.toNat < 0x110000 := by
  have hlt := ch.valid
  simp only [UInt32.isValidChar, Nat.isValidChar] at hlt
  show ch.val.toNat < 0x110000
  omega

theorem escape_letter (h : escapeLetter? ch = some letter) (hc : c.rest = letter :: rest) :
    escape c = .ok ([ch], c.next) := by
  have hread : simpleEscape? letter = some ch := by
    unfold escapeLetter? at h
    split at h <;> cases h <;> rfl
  rw [escape, Cursor.head_of_eq hc, hread]

theorem escape_number {width : ℕ} (hwidth : 0 < width) (hletter : escapeLength? letter = some width)
    (hnone : simpleEscape? letter = none) (hn : ch.toNat < 16 ^ width)
    (hc : c.rest = letter :: (upperHex width ch.toNat ++ rest)) :
    escape c = .ok ([ch], c.skip (width + 1)) := by
  obtain ⟨ds, hread, hlength, hvalue⟩ := upperHex_spec width ch.toNat
  rw [length_upperHex hwidth hn] at hlength
  have htake : (c.rest.drop 1).take width = upperHex width ch.toNat := by
    rw [hc]
    exact List.take_left' (length_upperHex hwidth hn)
  have hvalid : ¬ 0x10FFFF < ch.toNat := Nat.not_lt.mpr (Nat.le_of_lt_succ (charToNat_lt ch))
  simp only [escape, Cursor.head_of_eq hc, hnone, hletter, htake, hread, hlength, hvalue, ne_eq,
    not_true_eq_false, if_false, hvalid, Char.ofNat_toNat]

/-- The escape of a character is a backslash and something that is read as the character. -/
theorem exists_escape {code : List Char} (h : escapeOf? ch = some code) :
    ∃ tail, code = '\\' :: tail ∧ tail ≠ [] ∧
      ∀ {rest : List Char} {c : Cursor}, c.rest = tail ++ rest →
        escape c = .ok ([ch], c.skip tail.length) := by
  unfold escapeOf? at h
  split at h
  · rename_i letter hletter
    cases h
    exact ⟨[letter], rfl, by simp, fun hc => escape_letter hletter hc⟩
  have hnumber : ∀ (letter : Char) (width : ℕ), 0 < width → escapeLength? letter = some width →
      simpleEscape? letter = none → ch.toNat < 16 ^ width →
      ∀ {rest : List Char} {c : Cursor}, c.rest = (letter :: upperHex width ch.toNat) ++ rest →
        escape c = .ok ([ch], c.skip (letter :: upperHex width ch.toNat).length) := by
    intro letter width hwidth hletter hnone hn rest c hc
    rw [List.length_cons, length_upperHex hwidth hn]
    exact escape_number hwidth hletter hnone hn hc
  have hsize := charToNat_lt ch
  split at h
  · cases h
  split at h
  · cases h
    exact ⟨_, rfl, by simp, hnumber 'x' 2 (by decide) rfl rfl (by omega)⟩
  split at h
  · cases h
    exact ⟨_, rfl, by simp, hnumber 'u' 4 (by decide) rfl rfl (by omega)⟩
  · cases h
    exact ⟨_, rfl, by simp, hnumber 'U' 8 (by decide) rfl rfl (by omega)⟩

end

/-! ## Pieces with a backslash -/

namespace Quotes

variable {printed text : List Char} {m : ℕ}

/-- A backslash and what belongs to it are one piece. -/
theorem backslash (tail got : List Char)
    (h : ∀ {rest : List Char} {c : Cursor}, c.rest = tail ++ (printed ++ rest) →
      escape c = .ok (got, c.skip tail.length))
    (hquotes : Quotes true printed text) : Quotes true ('\\' :: tail ++ printed) (got ++ text) := by
  refine Quotes.piece ('\\' :: tail) got (by simp) ?_ hquotes
  intro rest c fuel _ hc
  have hnext : c.next.rest = tail ++ (printed ++ rest) := by
    rw [Cursor.rest_next, hc]
    rfl
  rw [quoted, hc]
  simp only [List.cons_append, isBreak, List.length_cons, Cursor.skip, h hnext]
  rfl

theorem escape {ch : Char} {code : List Char} (h : escapeOf? ch = some code)
    (hquotes : Quotes true printed text) : Quotes true (code ++ printed) (ch :: text) := by
  obtain ⟨tail, rfl, _, hread⟩ := exists_escape h
  exact backslash tail [ch] hread hquotes

/-- An escaped line break stands for nothing. -/
theorem fold (hm : 0 < m) (hsolid : Solid printed) (hne : printed ≠ [])
    (hquotes : Quotes true printed text) :
    Quotes true ('\\' :: lineBreak m ++ printed) text := by
  refine backslash (lineBreak m) [] ?_ hquotes
  intro rest c hc
  have hlines : c.rest = '\n' :: (List.replicate m ' ' ++ (printed ++ rest)) := hc
  have hnext : c.next.rest =
      List.replicate 0 '\n' ++ (List.replicate m ' ' ++ (printed ++ rest)) := by
    rw [Cursor.rest_next, hlines]
    rfl
  have hbreaks := quotedBreaks_lines (Nat.succ_pos c.next.rest.length) hm hnext (hsolid.append hne)
  rw [NodeGraph.Yaml.escape, Cursor.head_of_eq hlines]
  simp only [simpleEscape?, escapeLength?, Cursor.takeBreak_of_newline hlines, hbreaks]
  simp [lineBreak, Cursor.skip]

/-- An escaped space. -/
theorem space (hquotes : Quotes true printed text) :
    Quotes true ('\\' :: ' ' :: printed) (' ' :: text) := by
  refine backslash [' '] [' '] ?_ hquotes
  intro rest c hc
  rw [NodeGraph.Yaml.escape, Cursor.head_of_eq hc]
  rfl

end Quotes

end NodeGraph.Yaml
