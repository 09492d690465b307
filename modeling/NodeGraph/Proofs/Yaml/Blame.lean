import NodeGraph.Proofs.Outcome
import NodeGraph.Yaml.Node

/-!
# Faults of the grouping

The grouping of tokens adds no faults of its own but that of malformed texts. It only ever looks at
tokens that are left, so that any other fault it finds is among those it started with.
-/

namespace NodeGraph.Yaml

namespace Node

variable {α β : Type} {r r' : Reader} {f : Fault} {handles : Handles} {fuel : Nat}
  {tokens left : List Token}

/-! ## Steps of the grouping -/

/-- Fails, if at all, as malformed or with a fault among the tokens. -/
def Blames (tokens : List Token) (x : Except Fault α) : Prop :=
  ∀ f, x = .error f → f = .malformed ∨ .stop (some f) ∈ tokens

theorem blames_ok (a : α) : Blames tokens (.ok a) := by
  intro f heq
  cases heq

theorem Blames.of_subset {x : Except Fault α} (h : Blames left x) (hleft : left ⊆ tokens) :
    Blames tokens x := by
  intro f heq
  exact (h f heq).imp_right fun hmem => hleft hmem

theorem Blames.bind {x : Except Fault α} {k : α → Except Fault β} (hx : Blames tokens x)
    (hk : ∀ a, x = .ok a → Blames tokens (k a)) : Blames tokens (x >>= k) := by
  intro f heq
  rcases bind_eq_error_iff.mp heq with hfirst | ⟨a, hfirst, hrest⟩
  · exact hx f hfirst
  · exact hk a hfirst f hrest

theorem Blames.ite {c : Prop} {_ : Decidable c} {x y : Except Fault α}
    (hx : Blames tokens x) (hy : Blames tokens y) : Blames tokens (if c then x else y) := by
  split
  · exact hx
  · exact hy

namespace Reader

/-- A step leaves tokens that it found, and blames none but them. -/
structure Stays (r : Reader) (x : Except Fault (α × Reader)) : Prop where
  ok : ∀ a r', x = .ok (a, r') → r'.tokens ⊆ r.tokens
  error : Blames r.tokens x

theorem next_subset (r : Reader) : r.next.tokens ⊆ r.tokens := (List.tail_sublist r.tokens).subset

theorem stays_ok {a : α} (h : r'.tokens ⊆ r.tokens) : r.Stays (.ok (a, r')) where
  ok := by
    intro b r'' heq
    obtain ⟨_, rfl⟩ := Prod.mk.inj (Except.ok.inj heq)
    exact h
  error := blames_ok _

theorem stays_malformed : r.Stays (.error .malformed : Except Fault (α × Reader)) where
  ok := by
    intro a r' heq
    cases heq
  error := by
    intro f heq
    exact .inl (Except.error.inj heq).symm

theorem blames_fail (r : Reader) : Blames r.tokens (r.fail : Except Fault α) := by
  intro f heq
  obtain rfl := Except.error.inj heq
  obtain ⟨tokens, anchors⟩ := r
  unfold fault head
  cases tokens with
  | nil => exact .inl rfl
  | cons token rest =>
      rw [List.headD_cons]
      split
      · exact .inr List.mem_cons_self
      · exact .inl rfl

theorem stays_fail : r.Stays (r.fail : Except Fault (α × Reader)) where
  ok := by
    intro a r' heq
    cases heq
  error := r.blames_fail

/-- A step that starts from what is left is one of the whole. -/
theorem Stays.of_subset {x : Except Fault (α × Reader)} (h : r'.Stays x)
    (hleft : r'.tokens ⊆ r.tokens) : r.Stays x where
  ok := by
    intro a r'' heq
    exact List.Subset.trans (h.ok a r'' heq) hleft
  error := h.error.of_subset hleft

theorem Stays.bind {x : Except Fault (α × Reader)} {k : α × Reader → Except Fault (β × Reader)}
    (hx : r.Stays x) (hk : ∀ a r', r'.tokens ⊆ r.tokens → r.Stays (k (a, r'))) :
    r.Stays (x >>= k) where
  ok := by
    intro b r'' heq
    obtain ⟨⟨a, r'⟩, hfirst, hrest⟩ := bind_eq_ok_iff.mp heq
    exact (hk a r' (hx.ok a r' hfirst)).ok b r'' hrest
  error := hx.error.bind fun (a, r') hfirst => (hk a r' (hx.ok a r' hfirst)).error

/-- What is made of the outcome of a step takes no more tokens. -/
theorem Stays.value {x : Except Fault (α × Reader)} (hx : r.Stays x) (g : α → β) :
    r.Stays (x >>= fun found => pure (g found.1, found.2)) :=
  hx.bind fun _ _ hleft => stays_ok hleft

theorem Stays.ite {c : Prop} {_ : Decidable c} {x y : Except Fault (α × Reader)}
    (hx : r.Stays x) (hy : r.Stays y) : r.Stays (if c then x else y) := by
  split
  · exact hx
  · exact hy

/-- Two ways to the same step. -/
theorem Stays.bind_ite {c : Prop} {_ : Decidable c} {x y : Except Fault (α × Reader)}
    {k : α × Reader → Except Fault (β × Reader)} (hx : r.Stays x) (hy : r.Stays y)
    (hk : ∀ a r', r'.tokens ⊆ r.tokens → r.Stays (k (a, r'))) :
    r.Stays (if c then x >>= k else y >>= k) :=
  .ite (hx.bind hk) (hy.bind hk)

/-- A first step that takes no tokens can only fail as malformed. -/
theorem stays_bind_of_malformed {x : Except Fault α} {k : α → Except Fault (β × Reader)}
    (hx : ∀ f, x = .error f → f = .malformed) (hk : ∀ a, x = .ok a → r.Stays (k a)) :
    r.Stays (x >>= k) := by
  cases hfirst : x with
  | error f =>
      rw [hx f hfirst]
      exact stays_malformed
  | ok a => exact hk a hfirst

end Reader

open Reader

/-! ## Properties and aliases -/

theorem fault_of_aliased {name : String} (h : aliased r name = .error f) : f = .malformed := by
  unfold aliased at h
  split at h
  · cases h
  · exact (Except.error.inj h).symm

theorem fault_of_openAnchor {anchor : Option String} (h : openAnchor r anchor = .error f) :
    f = .malformed := by
  unfold openAnchor at h
  split at h
  · cases h
  · split at h
    · exact (Except.error.inj h).symm
    · cases h

theorem tokens_of_openAnchor {anchor : Option String} (h : openAnchor r anchor = .ok r') :
    r'.tokens = r.tokens := by
  unfold openAnchor at h
  split at h
  · rw [Except.ok.inj h]
  · split at h
    · cases h
    · rw [← Except.ok.inj h]

theorem tokens_closeAnchor (r : Reader) (node : Node) (anchor : Option String) :
    (closeAnchor r node anchor).tokens = r.tokens := by
  cases anchor <;> rfl

theorem tokens_takeAnchor (r : Reader) : (takeAnchor r).2.tokens ⊆ r.tokens := by
  unfold takeAnchor
  split
  · exact r.next_subset
  · exact List.Subset.refl _

theorem stays_takeTag (handles : Handles) (r : Reader) : r.Stays (takeTag handles r) := by
  unfold takeTag
  split
  · rename_i handle suffix _
    refine stays_bind_of_malformed (fun f h => ?_) fun name _ => stays_ok r.next_subset
    unfold resolveTag at h
    split at h
    · cases h
    · split at h
      · cases h
      · exact (Except.error.inj h).symm
  · exact stays_ok (List.Subset.refl _)

theorem stays_takeProperties (handles : Handles) (r : Reader) :
    r.Stays (takeProperties handles r) := by
  unfold takeProperties
  have hfirst := tokens_takeAnchor r
  cases hanchor : takeAnchor r with
  | mk anchor r₁ =>
      rw [hanchor] at hfirst
      refine ((stays_takeTag handles r₁).of_subset hfirst).bind ?_
      intro tag r₂ htag
      dsimp only
      split
      · exact stays_ok (List.Subset.trans (tokens_takeAnchor r₂) htag)
      · exact stays_ok htag

/-! ## Nodes and collections -/

/-- All steps of the grouping stay within the tokens that they find. -/
structure StepsStay (handles : Handles) (fuel : Nat) : Prop where
  parse (inBlock bare : Bool) (r : Reader) : r.Stays (Node.parse handles inBlock bare fuel r)
  content (inBlock bare : Bool) (properties : Properties) (r : Reader) :
    r.Stays (Node.content handles inBlock bare properties fuel r)
  blockItems (r : Reader) : r.Stays (Node.blockItems handles fuel r)
  bareItems (r : Reader) : r.Stays (Node.bareItems handles fuel r)
  blockPairs (r : Reader) : r.Stays (Node.blockPairs handles fuel r)
  blockPart (r : Reader) : r.Stays (Node.blockPart handles fuel r)
  flowItems (first : Bool) (r : Reader) : r.Stays (Node.flowItems handles first fuel r)
  flowPairs (first : Bool) (r : Reader) : r.Stays (Node.flowPairs handles first fuel r)
  flowPart (closing : Token) (isKey : Bool) (r : Reader) :
    r.Stays (Node.flowPart handles closing isKey fuel r)

theorem stepsStay_zero : StepsStay handles 0 := by
  constructor <;> intros <;> exact stays_malformed

namespace StepsStay

variable (h : StepsStay handles fuel)
include h

theorem parse_succ (inBlock bare : Bool) (r : Reader) :
    r.Stays (Node.parse handles inBlock bare (fuel + 1) r) := by
  unfold Node.parse
  split
  · rename_i name _
    exact stays_bind_of_malformed (fun f => fault_of_aliased) fun node _ =>
      stays_ok r.next_subset
  · refine (stays_takeProperties handles r).bind ?_
    intro properties r₁ h₁
    refine stays_bind_of_malformed (fun f => fault_of_openAnchor) ?_
    intro r₂ hopen
    have h₂ : r₂.tokens ⊆ r.tokens := tokens_of_openAnchor hopen ▸ h₁
    refine ((h.content inBlock bare properties r₂).of_subset h₂).bind ?_
    intro node r₃ h₃
    exact stays_ok (tokens_closeAnchor r₃ node _ ▸ h₃)

theorem content_succ (inBlock bare : Bool) (properties : Properties) (r : Reader) :
    r.Stays (Node.content handles inBlock bare properties (fuel + 1) r) := by
  unfold Node.content
  dsimp only
  split
  · exact stays_ok r.next_subset
  · exact ((h.flowItems true r.next).of_subset r.next_subset).value _
  · exact ((h.flowPairs true r.next).of_subset r.next_subset).value _
  · split
    · exact (h.bareItems r).value _
    · split
      · exact ((h.blockItems r.next).of_subset r.next_subset).value _
      · split
        · exact ((h.blockPairs r.next).of_subset r.next_subset).value _
        · split
          · exact stays_ok (List.Subset.refl _)
          · exact stays_fail

/-- An entry behind its mark, which may be missing, and the entries behind it. -/
theorem entry {c : Prop} {_ : Decidable c} {entries : Reader → ItemsStep}
    (hentries : ∀ r : Reader, r.Stays (entries r)) (r : Reader) :
    r.Stays (if c then pure (empty, r) >>= fun item =>
        entries item.2 >>= fun more => pure (item.1 :: more.1, more.2)
      else Node.parse handles true false fuel r >>= fun item =>
        entries item.2 >>= fun more => pure (item.1 :: more.1, more.2)) := by
  refine Stays.bind_ite (stays_ok (List.Subset.refl _)) (h.parse true false r) ?_
  intro item r₁ h₁
  exact ((hentries r₁).of_subset h₁).value (item :: ·)

theorem blockItems_succ (r : Reader) : r.Stays (Node.blockItems handles (fuel + 1) r) := by
  unfold Node.blockItems
  split
  · exact (h.entry h.blockItems r.next).of_subset r.next_subset
  · exact stays_ok r.next_subset
  · exact stays_fail

theorem bareItems_succ (r : Reader) : r.Stays (Node.bareItems handles (fuel + 1) r) := by
  unfold Node.bareItems
  split
  · exact (h.entry h.bareItems r.next).of_subset r.next_subset
  · exact stays_ok (List.Subset.refl _)

theorem blockPart_succ (r : Reader) : r.Stays (Node.blockPart handles (fuel + 1) r) := by
  unfold Node.blockPart
  exact .ite (stays_ok (List.Subset.refl _)) (h.parse true true r)

theorem blockPairs_succ (r : Reader) : r.Stays (Node.blockPairs handles (fuel + 1) r) := by
  unfold Node.blockPairs
  split
  · refine Stays.bind ((h.blockPart r.next).of_subset r.next_subset) ?_
    intro key r₁ h₁
    refine Stays.of_subset ?_ h₁
    refine Stays.bind_ite ((h.blockPart r₁.next).of_subset r₁.next_subset)
      (stays_ok (List.Subset.refl _)) ?_
    intro value r₂ h₂
    exact ((h.blockPairs r₂).of_subset h₂).value ((key, value) :: ·)
  · exact stays_ok r.next_subset
  · exact stays_fail

theorem flowPart_succ (closing : Token) (isKey : Bool) (r : Reader) :
    r.Stays (Node.flowPart handles closing isKey (fuel + 1) r) := by
  unfold Node.flowPart
  exact .ite (stays_ok (List.Subset.refl _)) (h.parse false false r)

/-- A pair between brackets, at the mark of its key, and what comes behind it. -/
theorem flowPair (closing : Token) (k : (Node × Node) × Reader → Except Fault (β × Reader))
    (hk : ∀ pair r', r'.tokens ⊆ r.tokens → r.Stays (k (pair, r'))) :
    r.Stays (Node.flowPart handles closing true fuel r.next >>= fun key =>
      if key.2.head = .value then
        Node.flowPart handles closing false fuel key.2.next >>= fun value =>
          k ((key.1, value.1), value.2)
      else k ((key.1, empty), key.2)) := by
  refine Stays.bind ((h.flowPart closing true r.next).of_subset r.next_subset) ?_
  intro key r₁ h₁
  refine .ite (Stays.bind ((h.flowPart closing false r₁.next).of_subset
    (List.Subset.trans r₁.next_subset h₁)) ?_) (hk _ r₁ h₁)
  intro value r₂ h₂
  exact hk _ r₂ h₂

omit h in
/-- Behind the comma, if there has to be one. -/
theorem behindComma_subset (first : Bool) (r : Reader) :
    (if first then r else r.next).tokens ⊆ r.tokens := by
  split
  · exact List.Subset.refl _
  · exact r.next_subset

theorem flowItems_succ (first : Bool) (r : Reader) :
    r.Stays (Node.flowItems handles first (fuel + 1) r) := by
  let rest (item : Node × Reader) : ItemsStep :=
    Node.flowItems handles false fuel item.2 >>= fun more => pure (item.1 :: more.1, more.2)
  have hrest : ∀ {r r' : Reader} (item : Node), r'.tokens ⊆ r.tokens →
      r.Stays (rest (item, r')) := by
    intro r r' item hleft
    exact ((h.flowItems false r').of_subset hleft).value (item :: ·)
  unfold Node.flowItems
  refine .ite (stays_ok r.next_subset) (.ite stays_fail ?_)
  have hcomma := behindComma_subset first r
  dsimp only
  generalize (if first then r else r.next) = r₁ at hcomma
  refine Stays.of_subset (.ite (stays_ok r₁.next_subset) (.ite ?_ ?_)) hcomma
  · exact h.flowPair .flowSequenceEnd (fun pair => rest (.mapping .map [pair.1], pair.2))
      fun pair r₂ h₂ => hrest _ h₂
  · exact Stays.bind (h.parse false false r₁) fun item r₂ h₂ => hrest item h₂

theorem flowPairs_succ (first : Bool) (r : Reader) :
    r.Stays (Node.flowPairs handles first (fuel + 1) r) := by
  let rest (pair : (Node × Node) × Reader) : PairsStep :=
    Node.flowPairs handles false fuel pair.2 >>= fun more => pure (pair.1 :: more.1, more.2)
  have hrest : ∀ {r r' : Reader} (pair : Node × Node), r'.tokens ⊆ r.tokens →
      r.Stays (rest (pair, r')) := by
    intro r r' pair hleft
    exact ((h.flowPairs false r').of_subset hleft).value (pair :: ·)
  unfold Node.flowPairs
  refine .ite (stays_ok r.next_subset) (.ite stays_fail ?_)
  have hcomma := behindComma_subset first r
  dsimp only
  generalize (if first then r else r.next) = r₁ at hcomma
  refine Stays.of_subset (.ite (stays_ok r₁.next_subset) (.ite ?_ ?_)) hcomma
  · exact h.flowPair .flowMappingEnd rest fun pair r₂ h₂ => hrest pair h₂
  · exact Stays.bind (h.parse false false r₁) fun key r₂ h₂ => hrest (key, empty) h₂

end StepsStay

theorem stepsStay (handles : Handles) (fuel : Nat) : StepsStay handles fuel := by
  induction fuel with
  | zero => exact stepsStay_zero
  | succ fuel h =>
      exact ⟨h.parse_succ, h.content_succ, h.blockItems_succ, h.bareItems_succ, h.blockPairs_succ,
        h.blockPart_succ, h.flowItems_succ, h.flowPairs_succ, h.flowPart_succ⟩

/-! ## Documents -/

theorem tokens_of_directives {tokens left : List Token} {seen : Bool} {handles handles' : Handles}
    (h : directives tokens seen handles = .ok (handles', left)) : left ⊆ tokens := by
  fun_induction directives tokens seen handles with
  | case1 => cases h
  | case2 _ _ _ _ _ ih => exact List.Subset.trans (ih h) (List.subset_cons_self _ _)
  | case3 => cases h
  | case4 _ _ _ _ _ _ ih => exact List.Subset.trans (ih h) (List.subset_cons_self _ _)
  | case5 _ _ _ ih => exact List.Subset.trans (ih h) (List.subset_cons_self _ _)
  | case6 =>
      obtain ⟨_, rfl⟩ := Prod.mk.inj (Except.ok.inj h)
      exact List.Subset.refl _

theorem fault_of_directives {tokens : List Token} {seen : Bool} {handles : Handles}
    (h : directives tokens seen handles = .error f) : f = .malformed := by
  fun_induction directives tokens seen handles with
  | case1 | case3 => exact (Except.error.inj h).symm
  | case2 _ _ _ _ _ ih => exact ih h
  | case4 _ _ _ _ _ _ ih => exact ih h
  | case5 _ _ _ ih => exact ih h
  | case6 => cases h

theorem blames_finish (r : Reader) : Blames r.tokens (finish r) := by
  unfold finish
  split
  · exact blames_ok ()
  · exact (Reader.blames_fail _).of_subset (List.dropWhile_sublist _).subset

/-- A node and the end of the document behind it. -/
theorem blames_document {x : NodeStep} (hx : r.Stays x) :
    Blames r.tokens (x >>= fun found => finish found.2 >>= fun _ => pure (some found.1)) := by
  refine hx.error.bind ?_
  intro (node, r') hnode
  exact ((blames_finish r').of_subset (hx.ok node r' hnode)).bind fun _ _ => blames_ok _

/-- The grouping finds no faults but those of the tokens. -/
theorem blames_ofTokens (tokens : List Token) : Blames tokens (ofTokens tokens) := by
  unfold ofTokens
  dsimp only
  refine .ite (Blames.bind ?_ ?_) (.ite (blames_ok none) ?_)
  · intro f h
    exact .inl (fault_of_directives h)
  · intro (handles, left) hdirectives
    refine Blames.of_subset ?_ (tokens_of_directives hdirectives)
    refine .ite ((Reader.blames_fail ⟨left, []⟩).bind ?_) ?_
    · intro _ hfail
      cases hfail
    · refine Blames.of_subset ?_ (Reader.next_subset ⟨left, []⟩)
      split
      all_goals first
        | exact blames_document (stays_ok (List.Subset.refl _))
        | exact blames_document ((stepsStay _ _).parse true false _)
  · exact blames_document ((stepsStay _ _).parse true false ⟨tokens, []⟩)

end Node

end NodeGraph.Yaml
