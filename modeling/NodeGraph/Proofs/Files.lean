import Mathlib.Data.Nat.Notation
import NodeGraph.Files

/-!
# Written files

A text that is written to a file is read from it again, with its line breaks made plain.
-/

namespace NodeGraph.Files

variable {fs fs' : Files} {place : List String} {entry : Entry} {p : Path} {s : String}

/-! ## Bytes -/

theorem toList_loop (bs : ByteArray) (i : ℕ) (done : List UInt8) :
    ByteArray.toList.loop bs i done = done.reverse ++ bs.data.toList.drop i := by
  fun_induction ByteArray.toList.loop bs i done with
  | case1 i done hlt ih =>
      have hlt' : i < bs.data.toList.length := hlt
      have hget : bs.get! i = bs.data.toList[i] := by
        rw [ByteArray.get!, Array.getElem_toList]
        exact getElem!_pos bs.data i hlt
      rw [ih, List.drop_eq_getElem_cons hlt', hget, List.reverse_cons, List.append_assoc]
      rfl
  | case2 i done hge =>
      have hge' : bs.data.toList.length ≤ i := Nat.le_of_not_lt hge
      rw [List.drop_eq_nil_of_le hge', List.append_nil]

theorem toList_eq_data (bs : ByteArray) : bs.toList = bs.data.toList := by
  rw [ByteArray.toList, toList_loop]
  rfl

/-- The bytes of a text are read as the text. -/
theorem utf8?_toUTF8 (s : String) : Schema.utf8? s.toUTF8.toList = some s := by
  have hbytes : (⟨s.toUTF8.toList.toArray⟩ : ByteArray) = s.toUTF8 := by
    rw [toList_eq_data]
  rw [Schema.utf8?, hbytes, String.fromUTF8?]
  exact dif_pos s.isValidUTF8

/-! ## Places -/

theorem lookup_put (fs : Files) (place other : List String) (entry : Entry) :
    (fs.put place entry).entries.lookup other =
      if other = place then some entry else fs.entries.lookup other := by
  have hmap : ∀ entries : List (List String × Entry),
      (entries.map fun pair => if pair.1 = place then (pair.1, entry) else pair).lookup other =
        if other = place ∧ (entries.lookup place).isSome then some entry
        else entries.lookup other := by
    intro entries
    induction entries with
    | nil => simp
    | cons pair entries ih =>
        obtain ⟨k, e⟩ := pair
        by_cases hk : k = place
        · subst hk
          by_cases hother : other = k
          · simp [hother]
          · simp only [hother, false_and, if_false] at ih ⊢
            simpa [List.lookup_cons, beq_false_of_ne hother] using ih
        · have hplace : (place == k) = false := beq_false_of_ne (Ne.symm hk)
          simp only [List.map_cons, if_neg hk, List.lookup_cons, hplace, ih]
          by_cases hother : other = k
          · simp [hother, hk]
          · rw [beq_false_of_ne hother]
  rw [put]
  split
  · rename_i hsome
    rw [hmap]
    simp [hsome]
  · rename_i hnone
    rw [List.lookup_append]
    by_cases hother : other = place
    · subst hother
      simp [Option.not_isSome_iff_eq_none.mp hnone]
    · simp [List.lookup_cons, beq_false_of_ne hother, hother]

theorem get?_put_of_ne {other : List String} (h : other ≠ place) :
    (fs.put place entry).get? other = fs.get? other := by
  rw [get?, get?, lookup_put, if_neg h]

/-- Steps lead to where they led before a file was put there. -/
theorem follow_put {start : List String} {steps : List String}
    (hplace : fs.get? place ≠ some .directory) (h : fs.follow start steps = .ok place) :
    (fs.put place entry).follow start steps = .ok place := by
  induction steps generalizing start with
  | nil => exact h
  | cons step steps ih =>
      rw [follow] at h
      split at h
      · rename_i hstart
        have hne : start ≠ place := by
          rintro rfl
          exact hplace hstart
        rw [follow, get?_put_of_ne hne, hstart]
        exact ih h
      · cases h
      · cases h

theorem read_of_putFile {bytes : List UInt8} (h : fs.putFile p bytes = .ok fs') :
    fs'.read p = .ok bytes := by
  cases hfollow : fs.follow (start p) p.steps with
  | error fault =>
      rw [putFile, hfollow] at h
      cases h
  | ok place =>
      simp only [putFile, hfollow, bind, Except.bind] at h
      split at h
      · cases h
      · rename_i hplace
        obtain rfl := Except.ok.inj h
        have htop : isTop place = false := by
          rw [← Bool.not_eq_true]
          exact fun htop => hplace (if_pos htop)
        have hget : (fs.put place (.file bytes)).get? place = some (.file bytes) := by
          rw [get?, htop, lookup_put]
          simp
        simp only [read, find, follow_put hplace hfollow, bind, Except.bind, hget]
        rfl

theorem isDirectory_of_read {bytes : List UInt8} (h : fs.read p = .ok bytes) :
    fs.isDirectory p = false := by
  rw [isDirectory]
  split
  · rename_i hfind
    rw [read, hfind] at h
    cases h
  · rfl

/-! ## Texts -/

theorem plainBreaks_eq_self {cs : List Char} (h : '\r' ∉ cs) : plainBreaks cs = cs := by
  induction cs with
  | nil => rfl
  | cons c cs ih =>
      have hc : c ≠ '\r' := fun heq => h (heq ▸ List.mem_cons_self)
      rw [plainBreaks, ih fun hmem => h (List.mem_cons_of_mem c hmem)]
      · exact fun _ heq _ => hc heq
      · exact hc

/-- A text without carriage returns is read from its bytes. -/
theorem readText_of_read (hbreaks : '\r' ∉ s.toList) (h : fs.read p = .ok s.toUTF8.data.toList) :
    fs.readText p = .ok s := by
  rw [← toList_eq_data] at h
  simp only [readText, h, utf8?_toUTF8, plainBreaks_eq_self hbreaks, String.ofList_toList]

/-- A text without carriage returns is read as it was written. -/
theorem readText_of_writeText (hbreaks : '\r' ∉ s.toList) (h : fs.writeText p s = .ok fs') :
    fs'.readText p = .ok s := by
  cases hput : fs.putFile p s.toUTF8.toList with
  | error fault =>
      rw [writeText, hput] at h
      cases h
  | ok fs'' =>
      rw [writeText, hput] at h
      obtain rfl := Except.ok.inj h
      rw [toList_eq_data] at hput
      exact readText_of_read hbreaks (read_of_putFile hput)

end NodeGraph.Files
