import NodeGraph.Proofs.Yaml.Tree

/-!
# Values in blocks

What is written for a value leads to the tokens of its tree, wherever it stands in a block. Behind
it the next line belongs to its block or to one around it.
-/

namespace NodeGraph.Yaml

open Printer Lexer

/-! ## Keys -/

/-- The colon behind a key on one line with its value is looked for within 1024 characters. -/
def keyFits (key : String) : Bool := !isSimpleKey key || (textAt true 0 0 key).length ≤ 1024

/-- Keys of up to 102 characters fit, whatever the characters are. -/
theorem keyFits_of_length {key : String} (h : key.length ≤ 102) : keyFits key = true := by
  have hlength := length_textAt_key 0 0 key
  simp only [keyFits, Bool.or_eq_true, decide_eq_true_eq]
  omega

mutual

/-- Whether all keys in a value are texts that fit. -/
def keysFit : Value → Bool
  | .list items => itemKeysFit items
  | .map pairs => pairKeysFit pairs
  | _ => true

def itemKeysFit : List Value → Bool
  | [] => true
  | item :: items => keysFit item && itemKeysFit items

def pairKeysFit : List (Value × Value) → Bool
  | [] => true
  | (.text key, value) :: pairs => keyFits key && keysFit value && pairKeysFit pairs
  | _ => false

end

theorem itemKeysFit_iff {items : List Value} :
    itemKeysFit items = true ↔ ∀ v ∈ items, keysFit v = true := by
  induction items with
  | nil => simp [itemKeysFit]
  | cons v items ih => simp [itemKeysFit, ih]

theorem exists_of_pairKeysFit {first : Value × Value} {more : List (Value × Value)}
    (h : pairKeysFit (first :: more) = true) :
    ∃ key value, first = (.text key, value) ∧ keyFits key = true ∧ keysFit value = true ∧
      pairKeysFit more = true := by
  obtain ⟨key, value⟩ := first
  cases key with
  | text key =>
      simp only [pairKeysFit, Bool.and_eq_true] at h
      exact ⟨key, value, rfl, h.1.1, h.1.2, h.2⟩
  | _ => cases h

variable {spot : Spot} {indent column outer : ℕ} {I : ℤ} {Is Is' : List ℤ} {keyAllowed : Bool}
  {rest : List Char} {ts starts : List Token}

/-! ## What follows a value -/

/-- Behind a value comes a line of its block or of one around it. -/
def Continues (indent : ℕ) (Is : List ℤ) (rest : List Char) (ts : List Token) : Prop :=
  ∃ c body, rest = lineBreak c ++ body ∧ c ≤ indent ∧ Opens body ∧ Leads body c indent Is true ts

/-- A block inside ends where a line of the block around it comes. -/
theorem Continues.close (h : Continues outer Is rest ts) (hindent : outer < indent) :
    Continues indent (outer :: Is) rest (.blockEnd :: ts) := by
  obtain ⟨c, body, rfl, hc, hopens, hleads⟩ := h
  exact ⟨c, body, rfl, by omega, hopens, hleads.close hopens (by omega)⟩

theorem Continues.scalar {s : Scalar} {printed : List Char} (h : Continues indent Is rest ts)
    (hspells : Spells (indent + 1) s.text.toList s.plain printed) (hcolumn : indent < column) :
    Leads (' ' :: (printed ++ rest)) column indent Is keyAllowed (s.token :: ts) := by
  obtain ⟨c, body, rfl, hc, hopens, hleads⟩ := h
  have hindent : ((indent : ℤ) + 1).toNat = indent + 1 := by omega
  have hscalar : Leads (printed ++ (lineBreak c ++ body)) (column + 1) indent Is keyAllowed _ :=
    Leads.scalar (by rwa [hindent]) (by omega) (by omega) hopens hleads
  rw [String.ofList_toList] at hscalar
  exact Leads.space (opens_spells hspells) hscalar

theorem Continues.brackets (h : Continues indent Is rest ts) (mapping : Bool)
    (hcolumn : indent < column) :
    Leads (' ' :: (if mapping then '\x7b' else '[') :: (if mapping then '\x7d' else ']') :: rest)
        column indent Is keyAllowed
      ((if mapping then .flowMappingStart else .flowSequenceStart) ::
        (if mapping then .flowMappingEnd else .flowSequenceEnd) :: ts) := by
  obtain ⟨c, body, rfl, hc, hopens, hleads⟩ := h
  refine Leads.space ?_ (Leads.brackets mapping (by omega) hopens hleads)
  cases mapping <;> exact opens_cons rfl (by decide)

/-- What is written for a value starts with a space or a line break. -/
theorem exists_valueAt (spot : Spot) (indent column : ℕ) (v : Value) :
    ∃ g cs, valueAt spot indent column v = g :: cs ∧ isGap g = true := by
  cases v with
  | bool b => cases b <;> exact ⟨_, _, rfl, rfl⟩
  | list items => cases items <;> cases spot <;> exact ⟨_, _, rfl, rfl⟩
  | map pairs => cases pairs <;> cases spot <;> exact ⟨_, _, rfl, rfl⟩
  | _ => exact ⟨_, _, rfl, rfl⟩

/-- What is written for a value leads to the tokens of its tree. -/
def LeadsToTree (v : Value) : Prop :=
  ∀ ⦃spot : Spot⦄ ⦃indent column : ℕ⦄ ⦃Is : List ℤ⦄ ⦃keyAllowed : Bool⦄ ⦃rest : List Char⦄
    ⦃ts : List Token⦄, indent < column →
    (spot = .behindMark → column = indent + 1 ∧ keyAllowed = true) → Continues indent Is rest ts →
    Leads (valueAt spot indent column v ++ rest) column indent Is keyAllowed
      ((treeAt spot indent column v).tokens (spot = .behindKey) ++ ts)

theorem LeadsToTree.behindMark {v : Value} (hv : LeadsToTree v) (h : Continues indent Is rest ts) :
    ∃ g cs, isGap g = true ∧ valueAt .behindMark indent (indent + 1) v ++ rest = g :: cs ∧
      Leads (g :: cs) (indent + 1) indent Is true
        ((treeAt .behindMark indent (indent + 1) v).tokens false ++ ts) := by
  obtain ⟨g, cs, hvalue, hgap⟩ := exists_valueAt .behindMark indent (indent + 1) v
  have hleads := @hv .behindMark indent (indent + 1) Is true rest ts (Nat.lt_succ_self indent)
    (fun _ => ⟨rfl, rfl⟩) h
  rw [hvalue] at hleads ⊢
  exact ⟨g, cs ++ rest, hgap, rfl, hleads⟩

theorem LeadsToTree.behindKey {v : Value} (hv : LeadsToTree v) (hcolumn : indent < column)
    (h : Continues indent Is rest ts) :
    ∃ g cs, isGap g = true ∧ valueAt .behindKey indent column v ++ rest = g :: cs ∧
      Leads (g :: cs) column indent Is false
        ((treeAt .behindKey indent column v).tokens true ++ ts) := by
  obtain ⟨g, cs, hvalue, hgap⟩ := exists_valueAt .behindKey indent column v
  have hleads := @hv .behindKey indent column Is false rest ts hcolumn
    (fun hspot => by cases hspot) h
  rw [hvalue] at hleads ⊢
  exact ⟨g, cs ++ rest, hgap, rfl, hleads⟩

/-! ## Sequences -/

section

variable {first : Value} {more : List Value}

theorem leads_entry (hfirst : LeadsToTree first)
    (hblock : Block indent .blockSequenceStart I Is Is' starts)
    (h : Continues indent Is' rest ts) :
    Leads ('-' :: (valueAt .behindMark indent (indent + 1) first ++ rest)) indent I Is true
      (starts ++ .blockEntry ::
        ((treeAt .behindMark indent (indent + 1) first).tokens false ++ ts)) := by
  obtain ⟨g, cs, hgap, hcs, hleads⟩ := hfirst.behindMark h
  rw [hcs]
  exact hleads.dash hgap hblock

/-- The further items of a sequence are lines of its block. -/
theorem Continues.items (hmore : ∀ v ∈ more, LeadsToTree v) (h : Continues indent Is rest ts) :
    Continues indent Is (itemsAt indent more ++ rest)
      (Tree.entryTokens (itemTrees indent more) ++ ts) := by
  induction more with
  | nil => exact h
  | cons first more ih =>
      have htail := ih fun v hv => hmore v (List.mem_cons_of_mem _ hv)
      have hleads := leads_entry (hmore first List.mem_cons_self) (.inl ⟨rfl, rfl, rfl⟩) htail
      have hlines : itemsAt indent (first :: more) ++ rest = lineBreak indent ++ '-' ::
          (valueAt .behindMark indent (indent + 1) first ++ (itemsAt indent more ++ rest)) := by
        simp [itemsAt]
      refine ⟨indent, _, hlines, le_rfl, opens_cons rfl (by decide), ?_⟩
      simpa [itemTrees, Tree.entryTokens] using hleads

/-- A sequence that is not empty, from its first hyphen on. -/
theorem leads_items (hitems : ∀ v ∈ first :: more, LeadsToTree v)
    (hblock : Block indent .blockSequenceStart I Is Is' starts) (h : Continues indent Is' rest ts) :
    Leads ('-' :: (valueAt .behindMark indent (indent + 1) first ++ (itemsAt indent more ++ rest)))
      indent I Is true (starts ++ (Tree.entryTokens (itemTrees indent (first :: more)) ++ ts)) := by
  have htail : Continues indent Is' _ _ := h.items fun v hv => hitems v (List.mem_cons_of_mem _ hv)
  have hleads := leads_entry (hitems first List.mem_cons_self) hblock htail
  simpa [itemTrees, Tree.entryTokens] using hleads

end

/-! ## Mappings -/

section

variable {key : String} {value : Value} {first : Value × Value} {more : List (Value × Value)}

theorem pairAt_simple (indent : ℕ) (value : Value) (h : isSimpleKey key = true) :
    pairAt indent (.text key, value) =
      textAt true (indent + 2) indent key ++ ':' ::
        valueAt .behindKey indent (indent + (textAt true (indent + 2) indent key).length + 1)
          value := by
  rw [pairAt, if_pos h]

theorem pairAt_explicit (indent : ℕ) (value : Value) (h : ¬ isSimpleKey key = true) :
    pairAt indent (.text key, value) =
      '?' :: ' ' :: (textAt false (indent + 2) (indent + 2) key ++
        (lineBreak indent ++ ':' :: valueAt .behindMark indent (indent + 1) value)) := by
  rw [pairAt, if_neg h]
  simp

theorem opens_pairAt : Opens (pairAt indent (.text key, value) ++ rest) := by
  by_cases hsimple : isSimpleKey key = true
  · rw [pairAt_simple indent value hsimple, List.append_assoc]
    have hspells := (spells_textAt true indent key (Nat.succ_pos (indent + 1)) (Nat.zero_le _)).1
    exact opens_spells hspells
  · rw [pairAt_explicit indent value hsimple]
    exact opens_cons rfl (by decide)

theorem leads_pairAt (hkey : keyFits key = true) (hvalue : LeadsToTree value)
    (hblock : Block indent .blockMappingStart I Is Is' starts) (h : Continues indent Is' rest ts) :
    Leads (pairAt indent (.text key, value) ++ rest) indent I Is true
      (starts ++ (Tree.pairTokens [pairTree indent (.text key, value)] ++ ts)) := by
  have hle := hblock.le
  by_cases hsimple : isSimpleKey key = true
  · have houter : (I + 1).toNat ≤ indent + 2 := by omega
    have hspells := (spells_textAt true indent key (Nat.succ_pos (indent + 1)) houter).1
    rw [rereadText_key _ _ _ (Nat.succ_pos _)] at hspells
    have hlength : (textAt true (indent + 2) indent key).length ≤ 1024 := by
      rw [textAt_key]
      simpa [keyFits, hsimple] using hkey
    rw [pairAt_simple indent value hsimple, pairTree, if_pos hsimple]
    set name := textAt true (indent + 2) indent key with hname
    have hcolumn : indent < indent + name.length + 1 := by omega
    obtain ⟨g, cs, hgap, hcs, hleads⟩ := hvalue.behindKey hcolumn h
    rw [List.append_assoc, List.cons_append, hcs]
    have hall := Leads.key hspells (fun c => isPlainAscii_of_mem_textAt_key) hlength hgap hblock
      hleads
    rw [String.ofList_toList] at hall
    simpa [Tree.pairTokens, Scalar.token] using hall
  · obtain ⟨g, cs, hgap, hcs, hleads⟩ := hvalue.behindMark h
    have hcolon : Continues indent Is' (lineBreak indent ++ ':' :: g :: cs)
        (.value :: ((treeAt .behindMark indent (indent + 1) value).tokens false ++ ts)) :=
      ⟨indent, _, rfl, le_rfl, opens_cons rfl (by decide), hleads.colon hgap⟩
    have hspells := (spells_textAt false (indent + 2) key (Nat.succ_pos (indent + 1))
      (Nat.le_succ (indent + 1))).1
    have hscalar : Leads _ (indent + 1) indent Is' true
        ((Scalar.ofText false (indent + 2) (indent + 2) key).token :: _) :=
      hcolon.scalar hspells (Nat.lt_succ_self indent)
    have hall := hscalar.question rfl hblock
    rw [pairAt_explicit indent value hsimple, pairTree, if_neg hsimple, ← hcs] at *
    simpa [Tree.pairTokens] using hall

/-- The further pairs of a mapping are lines of its block. -/
theorem Continues.pairs (hkeys : pairKeysFit more = true)
    (hvalues : ∀ pair ∈ more, LeadsToTree pair.2) (h : Continues indent Is rest ts) :
    Continues indent Is (pairsAt indent more ++ rest)
      (Tree.pairTokens (pairTrees indent more) ++ ts) := by
  induction more with
  | nil => exact h
  | cons first more ih =>
      obtain ⟨key, value, rfl, hkey, -, hmore⟩ := exists_of_pairKeysFit hkeys
      have htail := ih hmore fun pair hpair => hvalues pair (List.mem_cons_of_mem _ hpair)
      have hleads := leads_pairAt hkey (hvalues _ List.mem_cons_self) (.inl ⟨rfl, rfl, rfl⟩) htail
      have hlines : pairsAt indent ((.text key, value) :: more) ++ rest = lineBreak indent ++
          (pairAt indent (.text key, value) ++ (pairsAt indent more ++ rest)) := by
        simp [pairsAt]
      refine ⟨indent, _, hlines, le_rfl, opens_pairAt, ?_⟩
      simpa [pairTrees, Tree.pairTokens] using hleads

/-- A mapping that is not empty, from its first key on. -/
theorem leads_pairs (hkeys : pairKeysFit (first :: more) = true)
    (hvalues : ∀ pair ∈ first :: more, LeadsToTree pair.2)
    (hblock : Block indent .blockMappingStart I Is Is' starts) (h : Continues indent Is' rest ts) :
    Opens (pairAt indent first ++ (pairsAt indent more ++ rest)) ∧
      Leads (pairAt indent first ++ (pairsAt indent more ++ rest)) indent I Is true
        (starts ++ (Tree.pairTokens (pairTrees indent (first :: more)) ++ ts)) := by
  obtain ⟨key, value, rfl, hkey, -, hmore⟩ := exists_of_pairKeysFit hkeys
  have htail : Continues indent Is' _ _ :=
    h.pairs hmore fun pair hpair => hvalues pair (List.mem_cons_of_mem _ hpair)
  have hleads := leads_pairAt hkey (hvalues _ List.mem_cons_self) hblock htail
  refine ⟨opens_pairAt, ?_⟩
  simpa [pairTrees, Tree.pairTokens] using hleads

end

/-! ## All values -/

theorem leadsToTree_list {items : List Value} (hitems : ∀ v ∈ items, LeadsToTree v) :
    LeadsToTree (.list items) := by
  intro spot indent column Is keyAllowed rest ts hcolumn hspot h
  cases items with
  | nil => simpa [valueAt, treeAt, itemTrees, Tree.tokens] using h.brackets false hcolumn
  | cons first more =>
      cases spot with
      | behindKey =>
          have hleads := leads_items hitems (.inl ⟨rfl, rfl, rfl⟩) h
          have hline : Leads _ column indent Is keyAllowed _ :=
            Leads.line (opens_cons rfl (by decide)) hleads
          simpa [valueAt, treeAt, itemTrees, Tree.tokens] using hline
      | behindMark =>
          obtain ⟨rfl, rfl⟩ := hspot rfl
          have hinner := h.close (show indent < indent + 2 by omega)
          have hleads := leads_items hitems (.inr ⟨by omega, rfl, rfl⟩) hinner
          have hspace := Leads.space (opens_cons rfl (by decide)) hleads
          simpa [valueAt, treeAt, itemTrees, Tree.tokens] using hspace

theorem leadsToTree_map {pairs : List (Value × Value)} (hkeys : pairKeysFit pairs = true)
    (hvalues : ∀ pair ∈ pairs, LeadsToTree pair.2) : LeadsToTree (.map pairs) := by
  intro spot indent column Is keyAllowed rest ts hcolumn hspot h
  cases pairs with
  | nil => simpa [valueAt, treeAt, pairTrees, Tree.tokens] using h.brackets true hcolumn
  | cons first more =>
      have hinner := h.close (show indent < indent + 2 by omega)
      obtain ⟨hopens, hleads⟩ := leads_pairs hkeys hvalues (.inr ⟨by omega, rfl, rfl⟩) hinner
      cases spot with
      | behindKey =>
          have hline : Leads _ column indent Is keyAllowed _ := Leads.line hopens hleads
          simpa [valueAt, treeAt, pairTrees, Tree.tokens] using hline
      | behindMark =>
          obtain ⟨rfl, rfl⟩ := hspot rfl
          have hspace := Leads.space hopens hleads
          simpa [valueAt, treeAt, pairTrees, Tree.tokens] using hspace

theorem leadsToTree_scalar {v : Value}
    (h : ∀ spot indent column, ∃ printed s, valueAt spot indent column v = ' ' :: printed ∧
      treeAt spot indent column v = .scalar s ∧ Spells (indent + 1) s.text.toList s.plain printed) :
    LeadsToTree v := by
  intro spot indent column Is keyAllowed rest ts hcolumn _ hrest
  obtain ⟨printed, s, hprinted, htree, hspells⟩ := h spot indent column
  rw [hprinted, htree]
  exact hrest.scalar hspells hcolumn

theorem leadsToTree_word {v : Value} {cs : List Char} (hne : cs ≠ [])
    (hplain : allowsPlain cs = true)
    (hprinted : ∀ spot indent column, valueAt spot indent column v = ' ' :: cs)
    (htree : ∀ spot indent column,
      treeAt spot indent column v = .scalar ⟨String.ofList cs, true⟩) : LeadsToTree v :=
  leadsToTree_scalar fun spot indent column =>
    ⟨cs, _, hprinted spot indent column, htree spot indent column, by
      rw [String.toList_ofList]
      exact spells_unsplit (indent + 1) hne hplain⟩

theorem leadsToTree_int (n : ℤ) : LeadsToTree (.int n) := by
  refine leadsToTree_word (toList_ne_nil_of_ofPlain ?_) (allowsPlain_toString n)
    (fun _ _ _ => rfl) fun _ _ _ => ?_
  · rw [ofPlain_toString]
    decide
  · rw [treeAt, String.ofList_toList]

theorem leadsToTree_float (x : Double) : LeadsToTree (.float x) := by
  have hne : (String.ofList (floatText x)).toList ≠ [] :=
    toList_ne_nil_of_ofPlain (by simp [ofPlain_floatText])
  rw [String.toList_ofList] at hne
  exact leadsToTree_word hne (allowsPlain_floatText x) (fun _ _ _ => rfl) fun _ _ _ => rfl

mutual

/-- Every value whose keys fit leads to the tokens of its tree. -/
theorem leadsToTree : (v : Value) → keysFit v = true → LeadsToTree v
  | .list items, h => leadsToTree_list (leadsToTree_items items h)
  | .map pairs, h => leadsToTree_map h (leadsToTree_pairs pairs h)
  | .bool true, _ => leadsToTree_word (by simp) (by decide) (fun _ _ _ => rfl) fun _ _ _ => rfl
  | .bool false, _ => leadsToTree_word (by simp) (by decide) (fun _ _ _ => rfl) fun _ _ _ => rfl
  | .int n, _ => leadsToTree_int n
  | .float x, _ => leadsToTree_float x
  | .text s, _ => leadsToTree_scalar fun _ indent column =>
      ⟨_, _, rfl, rfl, (spells_textAt false (column + 1) s (Nat.succ_pos (indent + 1))
        (Nat.le_succ (indent + 1))).1⟩
  | .null, _ | .bytes _, _ | .date _, _ | .dateTime _, _ | .tuple _, _ | .set _, _ =>
      leadsToTree_word (by simp) (by decide) (fun _ _ _ => rfl) fun _ _ _ => rfl

theorem leadsToTree_items : (items : List Value) → itemKeysFit items = true →
    ∀ v ∈ items, LeadsToTree v
  | [], _ => by simp
  | v :: items, h => by
      simp only [itemKeysFit, Bool.and_eq_true] at h
      exact List.forall_mem_cons.mpr ⟨leadsToTree v h.1, leadsToTree_items items h.2⟩

theorem leadsToTree_pairs : (pairs : List (Value × Value)) → pairKeysFit pairs = true →
    ∀ pair ∈ pairs, LeadsToTree pair.2
  | [], _ => by simp
  | (key, v) :: pairs, h => by
      obtain ⟨key, v', heq, -, hvalue, hmore⟩ := exists_of_pairKeysFit h
      cases heq
      exact List.forall_mem_cons.mpr ⟨leadsToTree v hvalue, leadsToTree_pairs pairs hmore⟩

end

/-! ## Documents -/

theorem isWritten_indicators :
    isWritten ' ' = true ∧ isWritten '-' = true ∧ isWritten '?' = true ∧ isWritten ':' = true := by
  decide

theorem all_isWritten_textAt (isKey : Bool) (indent column : ℕ) (s : String) :
    (textAt isKey indent column s).all isWritten = true :=
  List.all_eq_true.mpr fun _ => isWritten_of_mem_textAt

theorem all_isWritten_of_allowsPlain {cs : List Char} (h : allowsPlain cs = true) :
    cs.all isWritten = true :=
  List.all_eq_true.mpr fun c hc => isWritten_of_isPlainAscii (isPlainAscii_of_allowsPlain h c hc)

mutual

theorem all_isWritten_valueAt (spot : Spot) (indent column : ℕ) :
    (v : Value) → (valueAt spot indent column v).all isWritten = true
  | .bool b => by cases b <;> rfl
  | .int n => by
      rw [valueAt, List.all_cons, all_isWritten_of_allowsPlain (allowsPlain_toString n)]
      rfl
  | .float x => by
      rw [valueAt, List.all_cons, all_isWritten_of_allowsPlain (allowsPlain_floatText x)]
      rfl
  | .text s => by
      rw [valueAt, List.all_cons, all_isWritten_textAt]
      rfl
  | .list [] => rfl
  | .map [] => rfl
  | .list (item :: items) => by
      have hfirst := fun indent => all_isWritten_valueAt .behindMark indent (indent + 1) item
      have hmore := fun indent => all_isWritten_itemsAt indent items
      cases spot <;>
        simp [valueAt, hfirst, hmore, all_isWritten_lineBreak, isWritten_indicators]
  | .map (pair :: pairs) => by
      have hfirst := all_isWritten_pairAt (indent + 2) pair
      have hmore := all_isWritten_pairsAt (indent + 2) pairs
      cases spot <;>
        simp [valueAt, hfirst, hmore, all_isWritten_lineBreak, isWritten_indicators]
  | .null | .bytes _ | .date _ | .dateTime _ | .tuple _ | .set _ => rfl

theorem all_isWritten_itemsAt (indent : ℕ) :
    (items : List Value) → (itemsAt indent items).all isWritten = true
  | [] => rfl
  | item :: items => by
      have hfirst := all_isWritten_valueAt .behindMark indent (indent + 1) item
      have hmore := all_isWritten_itemsAt indent items
      simp [itemsAt, hfirst, hmore, all_isWritten_lineBreak, isWritten_indicators]

theorem all_isWritten_pairAt (indent : ℕ) :
    (pair : Value × Value) → (pairAt indent pair).all isWritten = true
  | (.text key, value) => by
      have hvalue := fun spot column => all_isWritten_valueAt spot indent column value
      rw [pairAt]
      split <;>
        simp [hvalue, all_isWritten_lineBreak, all_isWritten_textAt, isWritten_indicators]
  | (.null, _) | (.bool _, _) | (.int _, _) | (.float _, _) | (.bytes _, _) | (.date _, _)
  | (.dateTime _, _) | (.list _, _) | (.tuple _, _) | (.map _, _) | (.set _, _) => rfl

theorem all_isWritten_pairsAt (indent : ℕ) :
    (pairs : List (Value × Value)) → (pairsAt indent pairs).all isWritten = true
  | [] => rfl
  | pair :: pairs => by
      have hfirst := all_isWritten_pairAt indent pair
      have hmore := all_isWritten_pairsAt indent pairs
      simp [pairsAt, hfirst, hmore, all_isWritten_lineBreak]

end

theorem all_isWritten_print (pairs : List (Value × Value)) :
    (print pairs).toList.all isWritten = true := by
  cases pairs with
  | nil => decide
  | cons first more =>
      simp [print, all_isWritten_pairAt, all_isWritten_pairsAt]
      decide

theorem isDocumentChar_of_isWritten {c : Char} (h : isWritten c = true) :
    isDocumentChar c = true ∧ c ≠ '\uFEFF' := by
  rcases isWritten_iff.mp h with h | rfl
  · refine ⟨isDocumentChar_of_isPlainAscii h, ?_⟩
    rintro rfl
    revert h
    decide
  · decide

theorem ofText_of_isWritten {s : String} (h : s.toList.all isWritten = true) :
    Token.ofText s = (Lexer.start s).run (s.length + 2) := by
  rw [List.all_eq_true] at h
  have hdocument : s.toList.all isDocumentChar = true :=
    List.all_eq_true.mpr fun c hc => (isDocumentChar_of_isWritten (h c hc)).1
  have hmark : ¬ (Lexer.start s).cursor.head = '\uFEFF' := by
    show ¬ s.toList.headD '\x00' = '\uFEFF'
    cases hhead : s.toList with
    | nil => decide
    | cons c _ => exact (isDocumentChar_of_isWritten (h c (hhead ▸ List.mem_cons_self))).2
  simp only [Token.ofText, hdocument, if_true, if_neg hmark]

/-- A written mapping leads to the tokens of its tree. -/
theorem ofText_print {pairs : List (Value × Value)} (h : keysFit (.map pairs) = true) :
    Token.ofText (print pairs) =
      (Tree.mapping (pairTrees 0 pairs)).tokens false ++ [.stop none] := by
  rw [ofText_of_isWritten (all_isWritten_print pairs)]
  cases pairs with
  | nil => decide
  | cons first more =>
      have hend : Continues 0 [-1] ['\n'] [.blockEnd, .stop none] :=
        ⟨0, [], rfl, le_rfl, ⟨by simp [Solid], by simp⟩, Leads.finish⟩
      obtain ⟨-, hleads⟩ := leads_pairs h (leadsToTree_pairs _ h)
        (.inr ⟨by decide, rfl, rfl⟩) hend
      have hprint : (print (first :: more)).toList =
          pairAt 0 first ++ (pairsAt 0 more ++ ['\n']) := by simp [print]
      rw [← hprint] at hleads
      have hrun := @hleads 0 0 [] ((print (first :: more)).length + 2)
        (by rw [String.length_toList]; omega)
      simpa [pairTrees, Tree.tokens, Lexer.start, Cursor.ofText] using hrun

end NodeGraph.Yaml
