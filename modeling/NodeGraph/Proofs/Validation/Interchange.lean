import NodeGraph.Proofs.Graph.Shape
import NodeGraph.Proofs.Registry.Equality
import NodeGraph.Proofs.Validation.Completion

/-!
# Validation under equal definitions

Equal fields say the same about equal values: a bound of zero has no use for its sign, and a pattern
is given by its text. So the messages about a node only depend on the order in which its definition
lists the fields, and the messages about connections not even on that. Two graphs of the same shape
whose nodes hold the same values are validated alike: exactly so if the fields are listed in one
order, and up to the order of the messages about each node otherwise.
-/

namespace NodeGraph

/-! ## Bounds -/

namespace Double

variable {x y z : Double}

theorem eq_or_isZero_of_sameNumber (h : sameNumber x y = true) :
    x = y ∨ x.isZero = true ∧ y.isZero = true := by
  simp only [sameNumber, Bool.or_eq_true, beq_iff_eq] at h
  rcases h with h | h
  · unfold eqv at h
    split at h
    · cases h
    · simpa using h
  · exact .inl h

theorem scaled_zero (negative : Bool) (exponent low : Int) : scaled negative 0 exponent low = 0 := by
  simp [scaled]

theorem scaled_pos_iff {negative : Bool} {mantissa : Nat} {exponent low : Int} :
    0 < scaled negative mantissa exponent low ↔ negative = false ∧ 0 < mantissa := by
  have hpower : 0 < 2 ^ (exponent - low).natAbs := Nat.two_pow_pos _
  unfold scaled
  cases negative <;> simp

theorem scaled_neg_iff {negative : Bool} {mantissa : Nat} {exponent low : Int} :
    scaled negative mantissa exponent low < 0 ↔ negative = true ∧ 0 < mantissa := by
  have hpower : 0 < 2 ^ (exponent - low).natAbs := Nat.two_pow_pos _
  unfold scaled
  cases negative <;> simp

theorem exists_of_isZero (h : x.isZero = true) : ∃ negative, x = signedZero negative := by
  cases x with
  | finite negative mantissa exponent hform =>
      obtain rfl : mantissa = 0 := by simpa [isZero] using h
      obtain rfl : exponent = -1074 := (canonical_iff.mp hform).2.2.2.resolve_left (by decide)
      exact ⟨negative, rfl⟩
  | _ => cases h

/-- In comparisons it does not matter which zero is meant. -/
theorem lt_of_isZero (hx : x.isZero = true) (hy : y.isZero = true) : x.lt z = y.lt z := by
  obtain ⟨_, rfl⟩ := exists_of_isZero hx
  obtain ⟨_, rfl⟩ := exists_of_isZero hy
  cases z with
  | finite =>
      rw [Bool.eq_iff_iff]
      simp only [lt, signedZero, scaled_zero, decide_eq_true_iff, scaled_pos_iff]
  | _ => rfl

theorem lt_isZero (hx : x.isZero = true) (hy : y.isZero = true) : z.lt x = z.lt y := by
  obtain ⟨_, rfl⟩ := exists_of_isZero hx
  obtain ⟨_, rfl⟩ := exists_of_isZero hy
  cases z with
  | finite =>
      rw [Bool.eq_iff_iff]
      simp only [lt, signedZero, scaled_zero, decide_eq_true_iff, scaled_neg_iff]
  | _ => rfl

theorem toInt?_signedZero (negative : Bool) : toInt? (signedZero negative) = some 0 := by
  rw [signedZero, toInt?, if_pos (by decide), if_pos (Nat.zero_mod _), Nat.zero_div]
  cases negative <;> rfl

theorem boundText_of_isZero (h : x.isZero = true) : boundText x = "0" := by
  obtain ⟨negative, rfl⟩ := exists_of_isZero h
  rw [boundText, toInt?_signedZero]
  rfl

end Double

/-! ## One field -/

theorem TextPattern.eq_of_source {p q : TextPattern} (h : p.source = q.source) : p = q := by
  obtain ⟨source, pattern, hreads⟩ := p
  obtain ⟨_, pattern', hreads'⟩ := q
  subst h
  obtain rfl := Except.ok.inj (hreads.symm.trans hreads')
  rfl

/-- Bounds that are equal complain alike, if what is complained about does not tell zeros apart. -/
theorem flatMap_bound_eq {m m' : Option Double} (fails : Double → Bool) (opening : String)
    (h : sameOption sameNumber m m' = true)
    (hfails : ∀ x y, x.isZero = true → y.isZero = true → fails x = fails y) :
    m.toList.flatMap (fun x => complain (fails x) (opening ++ boundText x)) =
      m'.toList.flatMap fun x => complain (fails x) (opening ++ boundText x) := by
  cases sameOption_iff.mp h with
  | none => rfl
  | some h =>
      rcases Double.eq_or_isZero_of_sameNumber h with rfl | ⟨hx, hy⟩
      · rfl
      · simp only [Option.toList_some, List.flatMap_cons, hfails _ _ hx hy,
          Double.boundText_of_isZero hx, Double.boundText_of_isZero hy]

/-- What equal constraints have in common. -/
theorem Constraints.eqv_iff {c c' : Constraints} :
    c.eqv c' = true ↔ sameOption sameNumber c.min c'.min = true ∧
      sameOption sameNumber c.max c'.max = true ∧ c.minLength = c'.minLength ∧
      c.maxLength = c'.maxLength ∧ c.pattern.map (·.source) = c'.pattern.map (·.source) := by
  simp [eqv, and_assoc]

section

variable {s t : FieldSpec} {name : String} {v : Value}

theorem FieldSpec.eqv_iff :
    s.eqv t = true ↔ s.kind = t.kind ∧ s.label = t.label ∧ s.description = t.description ∧
      s.options = t.options ∧ s.default.eqv t.default = true ∧ s.required = t.required ∧
      sameOption Constraints.eqv s.constraints t.constraints = true := by
  simp [eqv, and_assoc]

theorem textMessages_of_eqv {c c' : Constraints} (h : c.eqv c' = true) :
    textMessages name c v = textMessages name c' v := by
  obtain ⟨-, -, hmin, hmax, hpattern⟩ := Constraints.eqv_iff.mp h
  have hpattern : c.pattern = c'.pattern :=
    Option.map_injective (fun _ _ => TextPattern.eq_of_source) hpattern
  unfold textMessages
  rw [hmin, hmax, hpattern]

theorem ruledMessages_of_eqv {c c' : Constraints} (h : c.eqv c' = true) :
    ruledMessages name c v = ruledMessages name c' v := by
  obtain ⟨-, -, hmin, hmax, -⟩ := Constraints.eqv_iff.mp h
  unfold ruledMessages Constraints.violated
  rw [textMessages_of_eqv h, hmin, hmax]

theorem numberMessages_of_eqv (h : s.eqv t = true) :
    numberMessages name s v = numberMessages name t v := by
  have hbounds : sameOption sameNumber (s.constraints.bind (·.min)) (t.constraints.bind (·.min)) =
        true ∧
      sameOption sameNumber (s.constraints.bind (·.max)) (t.constraints.bind (·.max)) = true := by
    obtain ⟨-, -, -, -, -, -, hconstraints⟩ := FieldSpec.eqv_iff.mp h
    generalize s.constraints = c, t.constraints = c' at hconstraints ⊢
    cases sameOption_iff.mp hconstraints with
    | none => exact ⟨rfl, rfl⟩
    | some hsame =>
        obtain ⟨hmin, hmax, -⟩ := Constraints.eqv_iff.mp hsame
        exact ⟨hmin, hmax⟩
  have hbelow (x : Double) := flatMap_bound_eq x.lt (fieldLabel name ++ "must be >= ") hbounds.1
    fun _ _ => Double.lt_isZero
  have habove (x : Double) := flatMap_bound_eq (·.lt x) (fieldLabel name ++ "must be <= ")
    hbounds.2 fun _ _ => Double.lt_of_isZero
  unfold numberMessages
  simp only [hbelow, habove]

/-- Equal fields have the same messages about a value. -/
theorem constraintMessages_of_eqv (h : s.eqv t = true) :
    constraintMessages name s v = constraintMessages name t v := by
  obtain ⟨hkind, -, -, hoptions, -, -, hconstraints⟩ := FieldSpec.eqv_iff.mp h
  unfold constraintMessages choiceMessages
  rw [hkind, hoptions, numberMessages_of_eqv h]
  generalize s.constraints = c, t.constraints = c' at hconstraints ⊢
  cases sameOption_iff.mp hconstraints with
  | none => rfl
  | some hsame => simp only [ruledMessages_of_eqv hsame]

end

/-! ## One node -/

/-- The nodes have the same id and type, and hold the same values. -/
structure Node.Alike (n m : Node) : Prop where
  id : m.id = n.id
  type : m.type = n.type
  field : ∀ name, m.field name = n.field name

section

variable {n m : Node} {a b : NodeDefinition} {fields fields' : List (String × FieldSpec)}

/-- Equal fields under the same names, in one order. -/
abbrev SameFields : List (String × FieldSpec) → List (String × FieldSpec) → Prop :=
  List.Forall₂ fun p q => p.1 = q.1 ∧ p.2.eqv q.2 = true

/-- The messages about required fields. -/
def missingMessages (n : Node) (fields : List (String × FieldSpec)) : List String :=
  fields.flatMap fun (name, spec) =>
    complain (spec.required && (n.field name).isEmpty) (fieldLabel name ++ "is required")

theorem missingMessages_congr (hn : n.Alike m) (h : SameFields fields fields') :
    missingMessages n fields = missingMessages m fields' := by
  induction h with
  | nil => rfl
  | @cons p q _ _ hpq _ ih =>
      obtain ⟨name, s⟩ := p
      obtain ⟨_, t⟩ := q
      obtain ⟨rfl, hspec⟩ := hpq
      obtain ⟨-, -, -, -, -, hrequired, -⟩ := FieldSpec.eqv_iff.mp hspec
      show complain (s.required && (n.field name).isEmpty) _ ++ missingMessages n _ =
        complain (t.required && (m.field name).isEmpty) _ ++ missingMessages m _
      rw [ih, hrequired, hn.field]

theorem valueMessages_congr (hn : n.Alike m) (h : SameFields fields fields') :
    valueMessages n fields = valueMessages m fields' := by
  induction h with
  | nil => rfl
  | @cons p q _ _ hpq _ ih =>
      obtain ⟨name, s⟩ := p
      obtain ⟨_, t⟩ := q
      obtain ⟨rfl, hspec⟩ := hpq
      simp only [valueMessages_cons, messagesIfGiven, ih, hn.field,
        constraintMessages_of_eqv hspec]

/-- In which order the fields are looked at makes no difference to whether one of them breaks off,
and none to what is said about them all. -/
theorem valueMessages_perm (n : Node) (h : fields.Perm fields') :
    Corresponds List.Perm (valueMessages n fields) (valueMessages n fields') := by
  induction h with
  | nil => exact .ok .nil
  | cons p _ ih =>
      rw [valueMessages_cons, valueMessages_cons]
      refine (Corresponds.refl (R := Eq) (fun _ => rfl) _).bind ?_
      rintro own _ rfl
      exact ih.bind fun _ _ hrest => .ok (hrest.append_left own)
  | swap p q rest =>
      obtain ⟨name, s⟩ := p
      obtain ⟨other, t⟩ := q
      rw [valueMessages_cons, valueMessages_cons, valueMessages_cons, valueMessages_cons]
      cases messagesIfGiven other t (n.field other) with
      | error f =>
          cases messagesIfGiven name s (n.field name) with
          | error g => exact .error _ _
          | ok => exact .error _ _
      | ok others =>
          cases messagesIfGiven name s (n.field name) with
          | error g => exact .error _ _
          | ok own =>
              cases valueMessages n rest with
              | error f => exact .error _ _
              | ok more =>
                  refine .ok ?_
                  rw [← List.append_assoc, ← List.append_assoc]
                  exact List.perm_append_comm.append_right more
  | trans _ _ ih ih' => exact ih.trans (fun _ _ _ h h' => h.trans h') ih'

theorem hookMessages_eq_nil (h : a.hook = none) : hookMessages n a = [] := by
  rw [hookMessages, h]
  rfl

/-- Fields in one order have the same messages. -/
theorem nodeMessages_eq (h : a.Matches b) (hn : n.Alike m)
    (hkeys : a.fields.keys = b.fields.keys) : nodeMessages n a = nodeMessages m b := by
  obtain ⟨_, hsame, -, heq⟩ := Table.exists_reordered h.keys h.fields
  obtain rfl := heq hkeys
  have hrequired : requiredMessages n a = requiredMessages m b := missingMessages_congr hn hsame
  rw [nodeMessages, nodeMessages, valueMessages_congr hn hsame, hrequired,
    hookMessages_eq_nil h.hook, hookMessages_eq_nil h.hook']

theorem nodeMessages_corresponds (h : a.Matches b) (hn : n.Alike m) :
    Corresponds List.Perm (nodeMessages n a) (nodeMessages m b) := by
  obtain ⟨entries, hsame, hperm, -⟩ := Table.exists_reordered h.keys h.fields
  have hrequired : (requiredMessages n a).Perm (requiredMessages m b) := by
    rw [show requiredMessages n a = missingMessages m entries from missingMessages_congr hn hsame]
    exact hperm.flatMap_right _
  rw [nodeMessages, nodeMessages, valueMessages_congr hn hsame, hookMessages_eq_nil h.hook,
    hookMessages_eq_nil h.hook']
  refine (valueMessages_perm m hperm).bind fun _ _ hvalues => .ok ?_
  exact (hrequired.append_right []).append hvalues

end

/-! ## Connections -/

/-- Under each id the definitions match. -/
abbrev Definitions.Match (definitions definitions' : Definitions) : Prop :=
  ∀ id, Option.Rel NodeDefinition.Matches (definitions id) (definitions' id)

section

variable {g g' : Graph} {definitions definitions' : Definitions} {e : Edge}

theorem Definitions.Match.map_outputPin? (h : definitions.Match definitions') (e : Edge)
    (id : String) : (definitions' id).map e.outputPin? = (definitions id).map e.outputPin? := by
  have hid := h id
  generalize definitions id = x, definitions' id = y at hid ⊢
  cases hid with
  | none => rfl
  | some hmatches =>
      simp only [Option.map_some, Edge.outputPin?, hmatches.pins]

theorem Definitions.Match.map_inputPin? (h : definitions.Match definitions') (e : Edge)
    (id : String) : (definitions' id).map e.inputPin? = (definitions id).map e.inputPin? := by
  have hid := h id
  generalize definitions id = x, definitions' id = y at hid ⊢
  cases hid with
  | none => rfl
  | some hmatches =>
      simp only [Option.map_some, Edge.inputPin?, hmatches.pins]

variable (hshape : g.SameShape g') (h : definitions.Match definitions')

include hshape h

theorem unconnectedMessages_eq (id : String) :
    unconnectedMessages g' definitions' id = unconnectedMessages g definitions id := by
  have hconnected : g'.isConnected = g.isConnected := by
    funext id pin
    unfold Graph.isConnected
    rw [hshape.edges]
  have hid := h id
  unfold unconnectedMessages
  generalize definitions id = x, definitions' id = y at hid ⊢
  cases hid with
  | none => rfl
  | some hmatches =>
      simp only [Option.toList_some, List.flatMap_cons, hmatches.pins, hconnected]

theorem edgeRemarks_eq (e : Edge) :
    edgeRemarks g' definitions' e = edgeRemarks g definitions e := by
  unfold edgeRemarks
  simp only [hshape.ids, h.map_outputPin? e, h.map_inputPin? e]

theorem edgeIsWritable_eq :
    edgeIsWritable g' definitions' = edgeIsWritable g definitions := by
  funext e
  unfold edgeIsWritable
  simp only [hshape.ids, h.map_outputPin? e, h.map_inputPin? e]

omit h in
theorem cycleRemarks_eq (component : List String) :
    cycleRemarks g' component = cycleRemarks g component := by
  unfold cycleRemarks
  rw [hshape.ids, hshape.hasCycle_eq, hshape.cycleFrom_eq]

/-- What is said about connections does not depend on what the nodes hold. -/
theorem connectionLog_eq : connectionLog g' definitions' = connectionLog g definitions := by
  have hnodes : ∀ (g : Graph) (definitions : Definitions) (log : MessageLog),
      g.nodes.foldl (fun log node =>
        log.addAll ((unconnectedMessages g definitions node.id).map (⟨node.id, ·⟩))) log =
      g.ids.foldl (fun log id =>
        log.addAll ((unconnectedMessages g definitions id).map (⟨id, ·⟩))) log := by
    intro g definitions log
    rw [Graph.ids, List.foldl_map]
  unfold connectionLog
  rw [hnodes, hnodes]
  simp only [hshape.ids, hshape.edges, hshape.components_eq, unconnectedMessages_eq hshape h,
    edgeRemarks_eq hshape h, cycleRemarks_eq hshape]

end

/-! ## Graphs -/

/-- The same graph, but for the order in which its nodes hold their values and where they stand. -/
structure Graph.Alike (g g' : Graph) : Prop where
  nodes : List.Forall₂ Node.Alike g.nodes g'.nodes
  edges : g'.edges = g.edges

/-- Under each name the definitions match. -/
abbrev Registry.Match (r r' : Registry) : Prop :=
  ∀ type, Option.Rel NodeDefinition.Matches (r.get? type) (r'.get? type)

/-- Under each name the fields are listed in the same order. -/
def Registry.SameOrder (r r' : Registry) : Prop :=
  ∀ type d d', r.get? type = some d → r'.get? type = some d' → d.fields.keys = d'.fields.keys

theorem rel_find? {α : Type} {R : α → α → Prop} {p : α → Bool} {xs ys : List α}
    (h : List.Forall₂ R xs ys) (hp : ∀ a b, R a b → p a = p b) :
    Option.Rel R (xs.find? p) (ys.find? p) := by
  induction h with
  | nil => exact .none
  | @cons a b _ _ hab _ ih =>
      rw [List.find?_cons, List.find?_cons, hp a b hab]
      cases p b with
      | true => exact .some hab
      | false => exact ih

namespace Graph.Alike

variable {g g' : Graph} {r r' : Registry}

theorem map_id_eq {nodes nodes' : List Node} (h : List.Forall₂ Node.Alike nodes nodes') :
    nodes'.map (·.id) = nodes.map (·.id) := by
  induction h with
  | nil => rfl
  | cons hn _ ih => rw [List.map_cons, List.map_cons, hn.id, ih]

theorem shape (h : g.Alike g') : g.SameShape g' := ⟨map_id_eq h.nodes, h.edges⟩

theorem node? (h : g.Alike g') (id : String) :
    Option.Rel Node.Alike (g.node? id) (g'.node? id) :=
  rel_find? (List.forall₂_reverse_iff.mpr h.nodes) fun n m hn => by rw [hn.id]

theorem definitionsOf (h : g.Alike g') (hr : r.Match r') :
    Definitions.Match (r.definitionsOf g) (r'.definitionsOf g') := by
  intro id
  have hnode := h.node? id
  unfold Registry.definitionsOf
  generalize g.node? id = x, g'.node? id = y at hnode ⊢
  cases hnode with
  | none => exact .none
  | some hn =>
      simp only [Option.bind_some, hn.type]
      exact hr _

end Graph.Alike

/-- The messages are about the same node, and the same up to their order. -/
def NodeErrors.SameMessages (e f : NodeErrors) : Prop :=
  f.node = e.node ∧ e.messages.Perm f.messages

section

variable {g g' : Graph} {r r' : Registry} {log : MessageLog} {definitions definitions' : Definitions}
  {n m : Node} {nodes nodes' : List Node}

theorem messagesOf_eq (h : definitions.Match definitions') (hn : n.Alike m)
    (horder : ∀ id d d', definitions id = some d → definitions' id = some d' →
      d.fields.keys = d'.fields.keys) :
    messagesOf log definitions n = messagesOf log definitions' m := by
  have hid := h n.id
  have hkeys := horder n.id
  unfold messagesOf
  rw [hn.id, hn.type]
  generalize definitions n.id = x, definitions' n.id = y at hid hkeys ⊢
  cases hid with
  | none => rfl
  | some hmatches => simp only [nodeMessages_eq hmatches hn (hkeys _ _ rfl rfl)]

theorem messagesOf_corresponds (h : definitions.Match definitions') (hn : n.Alike m) :
    Corresponds List.Perm (messagesOf log definitions n) (messagesOf log definitions' m) := by
  have hid := h n.id
  unfold messagesOf
  rw [hn.id, hn.type]
  generalize definitions n.id = x, definitions' n.id = y at hid ⊢
  cases hid with
  | none => exact .ok (.refl _)
  | some hmatches =>
      exact (nodeMessages_corresponds hmatches hn).bind fun _ _ hown => .ok (hown.append_right _)

theorem errorsOf_eq (h : definitions.Match definitions')
    (horder : ∀ id d d', definitions id = some d → definitions' id = some d' →
      d.fields.keys = d'.fields.keys)
    (hnodes : List.Forall₂ Node.Alike nodes nodes') :
    errorsOf log definitions nodes = errorsOf log definitions' nodes' := by
  induction hnodes with
  | nil => rfl
  | cons hn _ ih =>
      unfold errorsOf
      rw [messagesOf_eq h hn horder, ih, hn.id]

theorem errorsOf_corresponds (h : definitions.Match definitions')
    (hnodes : List.Forall₂ Node.Alike nodes nodes') :
    Corresponds (List.Forall₂ NodeErrors.SameMessages) (errorsOf log definitions nodes)
      (errorsOf log definitions' nodes') := by
  induction hnodes with
  | nil => exact .ok .nil
  | cons hn _ ih =>
      unfold errorsOf
      refine (messagesOf_corresponds h hn).bind fun messages messages' hmessages => ?_
      refine ih.bind fun others others' hothers => .ok ?_
      rw [hmessages.isEmpty_eq]
      split
      · exact hothers
      · exact .cons ⟨hn.id, hmessages⟩ hothers

theorem sameOrder_definitionsOf (h : g.Alike g') (horder : r.SameOrder r') (id : String)
    (d d' : NodeDefinition) (hd : r.definitionsOf g id = some d)
    (hd' : r'.definitionsOf g' id = some d') : d.fields.keys = d'.fields.keys := by
  have hnode := h.node? id
  unfold Registry.definitionsOf at hd hd'
  generalize g.node? id = x, g'.node? id = y at hnode hd hd'
  cases hnode with
  | none => cases hd
  | some hn =>
      simp only [Option.bind_some, hn.type] at hd hd'
      exact horder _ d d' hd hd'

/-- If the fields are listed in the same order, both graphs have the same outcome. -/
theorem validate_eq (h : g.Alike g') (hr : r.Match r') (horder : r.SameOrder r') :
    validate g r = validate g' r' := by
  have hmatch := h.definitionsOf hr
  unfold validate
  simp only [h.edges, edgeIsWritable_eq h.shape hmatch, connectionLog_eq h.shape hmatch,
    errorsOf_eq hmatch (sameOrder_definitionsOf h horder) h.nodes]

/-- In any order either both graphs are answered, with the same messages up to their order, or
neither is. -/
theorem validate_corresponds (h : g.Alike g') (hr : r.Match r') :
    Corresponds (List.Forall₂ NodeErrors.SameMessages) (validate g r) (validate g' r') := by
  have hmatch := h.definitionsOf hr
  unfold validate
  simp only [h.edges, edgeIsWritable_eq h.shape hmatch, connectionLog_eq h.shape hmatch]
  split
  · split
    · exact errorsOf_corresponds hmatch h.nodes
    · exact .error _ _
  · exact .error _ _

end

end NodeGraph
