import NodeGraph.Proofs.Yaml.Tree

/-!
# The node of a tree

The tokens of a tree are grouped to its node. Four units of fuel for each token are enough.
-/

namespace NodeGraph.Yaml

variable {handles : Node.Handles} {anchors : List (String × Option Node)} {ts : List Token}

namespace Tree

/-! ## First tokens -/

/-- The tokens at which a node without properties starts. -/
def startsNode : Token → Bool
  | .scalar _ _ | .flowSequenceStart | .flowMappingStart | .blockSequenceStart
  | .blockMappingStart => true
  | _ => false

theorem exists_tokens_eq_cons (bare : Bool) (t : Tree) :
    ∃ first more, t.tokens bare = first :: more ∧
      (startsNode first = true ∨ bare = true ∧ first = .blockEntry) := by
  cases t with
  | scalar s => exact ⟨_, _, rfl, .inl rfl⟩
  | sequence items =>
      cases items with
      | nil => exact ⟨_, _, rfl, .inl rfl⟩
      | cons item items =>
          cases bare with
          | true => exact ⟨_, _, rfl, .inr ⟨rfl, rfl⟩⟩
          | false => exact ⟨_, _, rfl, .inl rfl⟩
  | mapping pairs => cases pairs <;> exact ⟨_, _, rfl, .inl rfl⟩

/-! ## What a tree is grouped to -/

/-- The tokens of a tree are grouped to its node. Behind a bare sequence no further entry comes. -/
def Groups (t : Tree) : Prop :=
  ∀ (handles : Node.Handles) (anchors : List (String × Option Node)) (bare allowed : Bool)
    (fuel : ℕ) (ts : List Token), (bare = true → allowed = true ∧ ts.head? ≠ some .blockEntry) →
    4 * (t.tokens bare).length + 3 ≤ fuel →
    Node.parse handles true allowed fuel ⟨t.tokens bare ++ ts, anchors⟩ =
      .ok (t.node, ⟨ts, anchors⟩)

/-- Without anchor and tag a node is its content. -/
theorem parse_eq_content {first : Token} {inBlock allowed : Bool} {fuel : ℕ}
    (h : startsNode first = true ∨ first = .blockEntry) :
    Node.parse handles inBlock allowed (fuel + 1) ⟨first :: ts, anchors⟩ =
      Node.content handles inBlock allowed ⟨none, none⟩ fuel ⟨first :: ts, anchors⟩ := by
  have hrun : Node.parse handles inBlock allowed (fuel + 1) ⟨first :: ts, anchors⟩ =
      (Node.content handles inBlock allowed ⟨none, none⟩ fuel ⟨first :: ts, anchors⟩ >>=
        fun x => pure x) := by
    cases first <;> first | rfl | simp [startsNode] at h
  rw [hrun, bind_pure]

/-! ## Sequences -/

section

variable {item : Tree} {items : List Tree} {fuel : ℕ}

theorem blockItems_entry {first : Token} {more : List Token} {node : Node} {nodes : List Node}
    {r r' : Node.Reader} (h : startsNode first = true)
    (hnode : Node.parse handles true false fuel ⟨first :: more, anchors⟩ = .ok (node, r))
    (hnodes : Node.blockItems handles fuel r = .ok (nodes, r')) :
    Node.blockItems handles (fuel + 1) ⟨.blockEntry :: first :: more, anchors⟩ =
      .ok (node :: nodes, r') := by
  have hread : Node.blockItems handles (fuel + 1) ⟨.blockEntry :: first :: more, anchors⟩ =
      (Node.parse handles true false fuel ⟨first :: more, anchors⟩).bind fun read =>
        (Node.blockItems handles fuel read.2).map fun later => (read.1 :: later.1, later.2) := by
    cases first <;> first | rfl | cases h
  rw [hread, hnode]
  simp only [Except.bind, hnodes, Except.map]

theorem bareItems_entry {first : Token} {more : List Token} {node : Node} {nodes : List Node}
    {r r' : Node.Reader} (h : startsNode first = true)
    (hnode : Node.parse handles true false fuel ⟨first :: more, anchors⟩ = .ok (node, r))
    (hnodes : Node.bareItems handles fuel r = .ok (nodes, r')) :
    Node.bareItems handles (fuel + 1) ⟨.blockEntry :: first :: more, anchors⟩ =
      .ok (node :: nodes, r') := by
  have hread : Node.bareItems handles (fuel + 1) ⟨.blockEntry :: first :: more, anchors⟩ =
      (Node.parse handles true false fuel ⟨first :: more, anchors⟩).bind fun read =>
        (Node.bareItems handles fuel read.2).map fun later => (read.1 :: later.1, later.2) := by
    cases first <;> first | rfl | cases h
  rw [hread, hnode]
  simp only [Except.bind, hnodes, Except.map]

/-- Entries are grouped one by one, with or without a block of their own, up to what comes behind
the last one. -/
theorem entryTokens_eq {group : ℕ → Node.Reader → Except Fault (List Node × Node.Reader)}
    {last : List Token}
    (hentry : ∀ {fuel : ℕ} {first : Token} {more : List Token} {node : Node} {nodes : List Node}
      {r r' : Node.Reader}, startsNode first = true →
        Node.parse handles true false fuel ⟨first :: more, anchors⟩ = .ok (node, r) →
        group fuel r = .ok (nodes, r') →
        group (fuel + 1) ⟨.blockEntry :: first :: more, anchors⟩ = .ok (node :: nodes, r'))
    (hlast : ∀ fuel, group (fuel + 1) ⟨last, anchors⟩ = .ok ([], ⟨ts, anchors⟩))
    (hitems : ∀ t ∈ items, Groups t) (hfuel : 4 * (entryTokens items).length + 1 ≤ fuel) :
    group fuel ⟨entryTokens items ++ last, anchors⟩ = .ok (nodes items, ⟨ts, anchors⟩) := by
  induction items generalizing fuel with
  | nil =>
      obtain ⟨fuel, rfl⟩ : ∃ f, fuel = f + 1 := ⟨fuel - 1, by omega⟩
      exact hlast fuel
  | cons item items ih =>
      obtain ⟨fuel, rfl⟩ : ∃ f, fuel = f + 1 := ⟨fuel - 1, by omega⟩
      simp only [entryTokens, List.length_cons, List.length_append] at hfuel
      obtain ⟨hitem, hmore⟩ := List.forall_mem_cons.mp hitems
      have htail := @ih fuel hmore (by omega)
      have hnode := hitem handles anchors false false fuel (entryTokens items ++ last)
        (fun hbare => by cases hbare) (by omega)
      obtain ⟨first, more, htokens, hfirst | ⟨hbare, _⟩⟩ := exists_tokens_eq_cons false item
      · rw [htokens, List.cons_append] at hnode
        rw [entryTokens, List.cons_append, List.append_assoc, htokens, List.cons_append]
        exact hentry hfirst hnode htail
      · cases hbare

theorem blockItems_entryTokens (hitems : ∀ t ∈ items, Groups t)
    (hfuel : 4 * (entryTokens items).length + 1 ≤ fuel) :
    Node.blockItems handles fuel ⟨entryTokens items ++ .blockEnd :: ts, anchors⟩ =
      .ok (nodes items, ⟨ts, anchors⟩) :=
  entryTokens_eq blockItems_entry (fun _ => rfl) hitems hfuel

theorem bareItems_entryTokens (hitems : ∀ t ∈ items, Groups t)
    (hfuel : 4 * (entryTokens items).length + 1 ≤ fuel) (hts : ts.head? ≠ some .blockEntry) :
    Node.bareItems handles fuel ⟨entryTokens items ++ ts, anchors⟩ =
      .ok (nodes items, ⟨ts, anchors⟩) := by
  refine entryTokens_eq bareItems_entry (fun fuel => ?_) hitems hfuel
  cases ts with
  | nil => rfl
  | cons first more => cases first <;> first | rfl | exact absurd rfl hts

end

/-! ## Mappings -/

section

variable {key : Key} {value : Tree} {pairs : List (Key × Tree)} {fuel : ℕ}

theorem parse_scalar (s : Scalar) {inBlock allowed : Bool} :
    Node.parse handles inBlock allowed (fuel + 2) ⟨s.token :: ts, anchors⟩ =
      .ok (s.node, ⟨ts, anchors⟩) := by
  rw [Scalar.token, parse_eq_content (.inl rfl)]
  rfl

theorem blockPart_eq_parse {first : Token} (h : startsNode first = true ∨ first = .blockEntry) :
    Node.blockPart handles (fuel + 1) ⟨first :: ts, anchors⟩ =
      Node.parse handles true true fuel ⟨first :: ts, anchors⟩ := by
  cases first <;> first | rfl | simp [startsNode] at h

theorem blockPart_tokens (hvalue : Groups value) (bare : Bool)
    (hts : bare = true → ts.head? ≠ some .blockEntry)
    (hfuel : 4 * (value.tokens bare).length + 3 ≤ fuel) :
    Node.blockPart handles (fuel + 1) ⟨value.tokens bare ++ ts, anchors⟩ =
      .ok (value.node, ⟨ts, anchors⟩) := by
  have hparse := hvalue handles anchors bare true fuel ts (fun hbare => ⟨rfl, hts hbare⟩) hfuel
  obtain ⟨first, more, htokens, hfirst⟩ := exists_tokens_eq_cons bare value
  rw [htokens, List.cons_append] at hparse ⊢
  rw [blockPart_eq_parse (hfirst.imp_right And.right), hparse]

/-- Behind a pair of a block comes a key or the end of the block. -/
theorem head_pairTokens (pairs : List (Key × Tree)) (ts : List Token) :
    (pairTokens pairs ++ .blockEnd :: ts).head? ≠ some .blockEntry := by
  cases pairs <;> simp [pairTokens]

theorem blockPairs_pair {key value : Node} {pairs : List (Node × Node)} {r : Node.Reader}
    {tokens tokens' tokens'' : List Token}
    (hkey : Node.blockPart handles fuel ⟨tokens, anchors⟩ = .ok (key, ⟨.value :: tokens', anchors⟩))
    (hvalue : Node.blockPart handles fuel ⟨tokens', anchors⟩ = .ok (value, ⟨tokens'', anchors⟩))
    (hpairs : Node.blockPairs handles fuel ⟨tokens'', anchors⟩ = .ok (pairs, r)) :
    Node.blockPairs handles (fuel + 1) ⟨.key :: tokens, anchors⟩ =
      .ok ((key, value) :: pairs, r) := by
  simp only [Node.blockPairs, Node.Reader.head, Node.Reader.next, List.headD_cons, List.tail_cons,
    bind, Except.bind, hkey, if_true, hvalue, hpairs]
  rfl

theorem blockPairs_pairTokens (hvalues : ∀ pair ∈ pairs, Groups pair.2)
    (hfuel : 4 * (pairTokens pairs).length + 1 ≤ fuel) :
    Node.blockPairs handles fuel ⟨pairTokens pairs ++ .blockEnd :: ts, anchors⟩ =
      .ok (pairNodes pairs, ⟨ts, anchors⟩) := by
  induction pairs generalizing fuel with
  | nil =>
      obtain ⟨fuel, rfl⟩ : ∃ f, fuel = f + 1 := ⟨fuel - 1, by omega⟩
      rfl
  | cons pair pairs ih =>
      obtain ⟨key, value⟩ := pair
      simp only [pairTokens, List.length_cons, List.length_append] at hfuel
      obtain ⟨fuel, rfl⟩ : ∃ f, fuel = f + 4 := ⟨fuel - 4, by omega⟩
      obtain ⟨hvalue : Groups value, hmore⟩ := List.forall_mem_cons.mp hvalues
      have htail := @ih (fuel + 3) hmore (by omega)
      have hkey : Node.blockPart handles (fuel + 3) ⟨key.token :: .value ::
          (value.tokens key.simple ++ (pairTokens pairs ++ .blockEnd :: ts)), anchors⟩ = _ :=
        (blockPart_eq_parse (.inl rfl)).trans (parse_scalar key.toScalar)
      have hpart : Node.blockPart handles (fuel + 2 + 1) ⟨value.tokens key.simple ++
          (pairTokens pairs ++ .blockEnd :: ts), anchors⟩ = _ :=
        blockPart_tokens hvalue key.simple (fun _ => head_pairTokens pairs ts) (by omega)
      simp only [pairTokens, List.cons_append, List.append_assoc]
      exact blockPairs_pair hkey hpart htail

end

/-! ## All trees -/

theorem groups_scalar (s : Scalar) : Groups (.scalar s) := by
  intro handles anchors bare allowed fuel ts _ hfuel
  simp only [tokens, List.length_singleton] at hfuel
  obtain ⟨fuel, rfl⟩ : ∃ f, fuel = f + 2 := ⟨fuel - 2, by omega⟩
  exact parse_scalar s

theorem groups_sequence {items : List Tree} (hitems : ∀ t ∈ items, Groups t) :
    Groups (.sequence items) := by
  intro handles anchors bare allowed fuel ts hbare hfuel
  obtain ⟨fuel, rfl⟩ : ∃ f, fuel = f + 3 := ⟨fuel - 3, by omega⟩
  cases items with
  | nil => rfl
  | cons item items =>
      cases bare with
      | true =>
          obtain ⟨rfl, hts⟩ := hbare rfl
          have hread : Node.bareItems handles (fuel + 1)
              ⟨entryTokens (item :: items) ++ ts, anchors⟩ = _ :=
            bareItems_entryTokens hitems (by simpa [tokens] using hfuel) hts
          have hcontent : Node.parse handles true true (fuel + 3)
              ⟨entryTokens (item :: items) ++ ts, anchors⟩ =
                (Node.bareItems handles (fuel + 1)
                  ⟨entryTokens (item :: items) ++ ts, anchors⟩).map
                    fun read => (.sequence .seq read.1, read.2) := by
            rw [entryTokens, List.cons_append, parse_eq_content (.inr rfl)]
            rfl
          rw [tokens, if_pos rfl, hcontent, hread]
          rfl
      | false =>
          have hread : Node.blockItems handles (fuel + 1)
              ⟨entryTokens (item :: items) ++ .blockEnd :: ts, anchors⟩ = _ :=
            blockItems_entryTokens hitems (by simp [tokens] at hfuel; omega)
          have hcontent : Node.parse handles true allowed (fuel + 3)
              ⟨.blockSequenceStart :: (entryTokens (item :: items) ++ .blockEnd :: ts), anchors⟩ =
                (Node.blockItems handles (fuel + 1)
                  ⟨entryTokens (item :: items) ++ .blockEnd :: ts, anchors⟩).map
                    fun read => (.sequence .seq read.1, read.2) := by
            rw [parse_eq_content (.inl rfl)]
            cases allowed <;> rfl
          have htokens : tokens false (.sequence (item :: items)) ++ ts =
              .blockSequenceStart :: (entryTokens (item :: items) ++ .blockEnd :: ts) := by
            simp [tokens]
          rw [htokens, hcontent, hread]
          rfl

theorem groups_mapping {pairs : List (Key × Tree)} (hvalues : ∀ pair ∈ pairs, Groups pair.2) :
    Groups (.mapping pairs) := by
  intro handles anchors bare allowed fuel ts _ hfuel
  obtain ⟨fuel, rfl⟩ : ∃ f, fuel = f + 3 := ⟨fuel - 3, by omega⟩
  cases pairs with
  | nil => rfl
  | cons pair pairs =>
      have hread : Node.blockPairs handles (fuel + 1)
          ⟨pairTokens (pair :: pairs) ++ .blockEnd :: ts, anchors⟩ = _ :=
        blockPairs_pairTokens hvalues (by simp [tokens] at hfuel; omega)
      have hcontent : Node.parse handles true allowed (fuel + 3)
          ⟨.blockMappingStart :: (pairTokens (pair :: pairs) ++ .blockEnd :: ts), anchors⟩ =
            (Node.blockPairs handles (fuel + 1)
              ⟨pairTokens (pair :: pairs) ++ .blockEnd :: ts, anchors⟩).map
                fun read => (.mapping .map read.1, read.2) := by
        rw [parse_eq_content (.inl rfl)]
        cases allowed <;> rfl
      have htokens : tokens bare (.mapping (pair :: pairs)) ++ ts =
          .blockMappingStart :: (pairTokens (pair :: pairs) ++ .blockEnd :: ts) := by
        simp [tokens]
      rw [htokens, hcontent, hread]
      rfl

mutual

/-- The tokens of every tree are grouped to its node. -/
theorem groups : (t : Tree) → Groups t
  | .scalar s => groups_scalar s
  | .sequence items => groups_sequence (groups_items items)
  | .mapping pairs => groups_mapping (groups_pairs pairs)

theorem groups_items : (items : List Tree) → ∀ t ∈ items, Groups t
  | [] => by simp
  | t :: items => List.forall_mem_cons.mpr ⟨groups t, groups_items items⟩

theorem groups_pairs : (pairs : List (Key × Tree)) → ∀ pair ∈ pairs, Groups pair.2
  | [] => by simp
  | (_, t) :: pairs => List.forall_mem_cons.mpr ⟨groups t, groups_pairs pairs⟩

end

theorem ofTokens_eq_parse {first : Token} (h : startsNode first = true) :
    Node.ofTokens (first :: ts) =
      (do
        let (node, r) ← Node.parse Node.defaultHandles true false
          (4 * (first :: ts).length + 8) ⟨first :: ts, []⟩
        Node.finish r
        return some node) := by
  cases first <;> first | rfl | cases h

/-- A text that leads to the tokens of a tree is a document with its node. -/
theorem ofTokens_tokens (t : Tree) :
    Node.ofTokens (t.tokens false ++ [.stop none]) = .ok (some t.node) := by
  have hparse := groups t Node.defaultHandles [] false false
    (4 * (t.tokens false ++ [Token.stop none]).length + 8) [Token.stop none]
    (fun hbare => by cases hbare) (by simp; omega)
  obtain ⟨first, more, htokens, hfirst | ⟨hbare, _⟩⟩ := exists_tokens_eq_cons false t
  · rw [htokens, List.cons_append] at hparse ⊢
    rw [ofTokens_eq_parse hfirst, hparse]
    rfl
  · cases hbare

end Tree

end NodeGraph.Yaml
