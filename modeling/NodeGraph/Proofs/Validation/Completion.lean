import NodeGraph.Proofs.Number.Overflow
import NodeGraph.Proofs.Validation.Exactness

/-!
# Values that cannot be checked

Validation answers with messages for all graphs but those that hold something it cannot even look
at: a pin that is no key, an integer under a number field that no double stands for, or an integer of
too many digits where the text of a value is compared or where a pin or a violated bound on the
length of a text is written. `FieldSpec.Stops` and
`Edge.Stops` list what can happen at one field and at one edge; nothing else in the messages can
fail.
-/

namespace NodeGraph

/-! ## One field -/

/-- The check of a given value breaks off with a fault. -/
inductive FieldSpec.Stops (spec : FieldSpec) : Value → Fault → Prop where
  | number {n : ℤ} (kind : spec.kind = .number) (large : Double.overflowBound ≤ n.natAbs) :
      spec.Stops (.int n) .overflow
  | choice {v : Value} (kind : spec.kind = .choice) (options : spec.options ≠ [])
      (long : v.isWritable = false) : spec.Stops v .wrongShape
  | text {v : Value} (kind : spec.kind = .text ∨ spec.kind = .multiline)
      (constrained : spec.constraints ≠ none) (long : v.isWritable = false) :
      spec.Stops v .wrongShape
  | bound {v : Value} {rules : Constraints} {n : ℤ}
      (kind : spec.kind = .text ∨ spec.kind = .multiline) (constrained : rules ∈ spec.constraints)
      (violated : n ∈ rules.violated v.display.length) (long : (Value.int n).isWritable = false) :
      spec.Stops v .wrongShape

section Field

variable {name : String} {spec : FieldSpec} {v : Value} {fault : Fault}

theorem FieldSpec.Stops.fault_eq (h : spec.Stops v fault) :
    fault = .overflow ∨ fault = .wrongShape := by
  cases h with
  | number => exact .inl rfl
  | choice => exact .inr rfl
  | text => exact .inr rfl
  | bound => exact .inr rfl

theorem Value.number?_eq_error_iff :
    v.number? = .error fault ↔
      ∃ n, v = .int n ∧ Double.overflowBound ≤ n.natAbs ∧ fault = .overflow := by
  cases v with
  | int n =>
      simp only [Value.number?, Value.int.injEq, exists_eq_left', ← Double.ofInt?_eq_none_iff]
      cases Double.ofInt? n with
      | none => simp [eq_comm]
      | some x => simp
  | _ => simp [Value.number?]

theorem numberMessages_eq_error_iff :
    numberMessages name spec v = .error fault ↔ v.number? = .error fault := by
  unfold numberMessages
  rw [bind_eq_error_iff]
  refine or_iff_left ?_
  rintro ⟨number, _, h⟩
  cases number <;> cases h

theorem aboutText_eq_error_iff {messages : List String} :
    aboutText v messages = .error fault ↔ v.isWritable = false ∧ fault = .wrongShape := by
  unfold aboutText
  cases v.isWritable <;> simp [eq_comm]

theorem ruledMessages_eq_error_iff {rules : Constraints} :
    ruledMessages name rules v = .error fault ↔
      ((∃ bound ∈ rules.violated v.display.length, (Value.int bound).isWritable = false) ∨
        v.isWritable = false) ∧ fault = .wrongShape := by
  unfold ruledMessages
  split
  · rename_i hbounds
    have hnone : ¬ ∃ bound ∈ rules.violated v.display.length,
        (Value.int bound).isWritable = false := by
      simpa using hbounds
    rw [aboutText_eq_error_iff, or_iff_right hnone]
  · rename_i hbounds
    have hsome : ∃ bound ∈ rules.violated v.display.length,
        (Value.int bound).isWritable = false := by
      simpa using hbounds
    rw [and_iff_right (.inl hsome), Except.error.injEq, eq_comm]

theorem constraintMessages_eq_error_iff (name : String) :
    constraintMessages name spec v = .error fault ↔ spec.Stops v fault := by
  unfold constraintMessages
  constructor
  · intro h
    split at h
    · rename_i kind
      split at h
      · cases h
      · rename_i options
        obtain ⟨long, rfl⟩ := aboutText_eq_error_iff.mp h
        exact .choice kind (by simpa using options) long
    · rename_i kind
      obtain ⟨n, rfl, large, rfl⟩ :=
        Value.number?_eq_error_iff.mp (numberMessages_eq_error_iff.mp h)
      exact .number kind large
    · cases h
    -- texts of one line and of several are checked alike
    all_goals
      rename_i kind
      split at h
      · cases h
      · rename_i rules constrained
        obtain ⟨⟨n, violated, long⟩ | long, rfl⟩ := ruledMessages_eq_error_iff.mp h
        · exact .bound (by simp [kind]) constrained violated long
        · exact .text (by simp [kind]) (by simp [constrained]) long
  · intro h
    cases h with
    | number kind large =>
        rw [kind]
        exact numberMessages_eq_error_iff.mpr (Value.number?_eq_error_iff.mpr ⟨_, rfl, large, rfl⟩)
    | choice kind options long =>
        have hsome : spec.options.isEmpty = false := by simpa using options
        rw [kind]
        simp only [hsome, Bool.false_eq_true, if_false]
        exact aboutText_eq_error_iff.mpr ⟨long, rfl⟩
    | text kind constrained long =>
        obtain ⟨rules, hrules⟩ := Option.ne_none_iff_exists'.mp constrained
        rcases kind with kind | kind
        all_goals
          rw [kind, hrules]
          exact ruledMessages_eq_error_iff.mpr ⟨.inr long, rfl⟩
    | bound kind constrained violated long =>
        rw [Option.mem_def] at constrained
        rcases kind with kind | kind
        all_goals
          rw [kind, constrained]
          exact ruledMessages_eq_error_iff.mpr ⟨.inl ⟨_, violated, long⟩, rfl⟩

end Field

/-! ## One node -/

/-- A field of a node holds a given value whose check breaks off. -/
def Node.Stops (n : Node) (d : NodeDefinition) (fault : Fault) : Prop :=
  ∃ p ∈ d.fields.entries, (n.field p.1).Given ∧ p.2.Stops (n.field p.1) fault

section Node

variable {log : MessageLog} {n : Node} {d : NodeDefinition} {definitions : Definitions}
  {fault : Fault}

/-- The messages about one value; one that is not given has none. -/
def messagesIfGiven (name : String) (spec : FieldSpec) (v : Value) : Except Fault (List String) :=
  if v.isUnset then pure [] else constraintMessages name spec v

theorem messagesIfGiven_eq_error_iff (name : String) {spec : FieldSpec} {v : Value} :
    messagesIfGiven name spec v = .error fault ↔ v.Given ∧ spec.Stops v fault := by
  rw [messagesIfGiven, ← Value.isUnset_eq_false_iff, ← constraintMessages_eq_error_iff name]
  cases v.isUnset with
  | true =>
      refine iff_of_false ?_ (by simp)
      intro h
      cases h
  | false => simp

theorem valueMessages_cons {name : String} {spec : FieldSpec} {fields : List (String × FieldSpec)} :
    valueMessages n ((name, spec) :: fields) =
      messagesIfGiven name spec (n.field name) >>= fun own =>
        valueMessages n fields >>= fun rest => pure (own ++ rest) := by
  rw [valueMessages, messagesIfGiven]
  cases (n.field name).isUnset <;> rfl

theorem exists_valueMessages_iff {fields : List (String × FieldSpec)} :
    (∃ messages, valueMessages n fields = .ok messages) ↔
      ∀ p ∈ fields, ∀ fault, ¬ ((n.field p.1).Given ∧ p.2.Stops (n.field p.1) fault) := by
  induction fields with
  | nil => simp [valueMessages]
  | cons p fields ih =>
      obtain ⟨name, spec⟩ := p
      rw [List.forall_mem_cons, ← ih, valueMessages_cons]
      simp only [← messagesIfGiven_eq_error_iff name, ← ne_eq, ← exists_ok_iff,
        exists_bind_ok_iff, pure_eq_ok_iff, exists_eq', and_true]
      exact exists_and_right

/-- The messages about the values of a node break off at one of them. -/
theorem valueMessages_error {fields : List (String × FieldSpec)}
    (h : valueMessages n fields = .error fault) :
    ∃ p ∈ fields, (n.field p.1).Given ∧ p.2.Stops (n.field p.1) fault := by
  induction fields with
  | nil => cases h
  | cons p fields ih =>
      obtain ⟨name, spec⟩ := p
      rw [valueMessages_cons] at h
      rcases bind_eq_error_iff.mp h with hown | ⟨own, _, hmore⟩
      · exact ⟨_, List.mem_cons_self, (messagesIfGiven_eq_error_iff _).mp hown⟩
      · rcases bind_eq_error_iff.mp hmore with hrest | ⟨_, _, hpure⟩
        · obtain ⟨q, hq, hstops⟩ := ih hrest
          exact ⟨q, List.mem_cons_of_mem _ hq, hstops⟩
        · cases hpure

theorem exists_nodeMessages_iff :
    (∃ messages, nodeMessages n d = .ok messages) ↔ ∀ fault, ¬ n.Stops d fault := by
  simp only [nodeMessages, exists_bind_ok_iff, pure_eq_ok_iff, exists_eq', and_true,
    exists_valueMessages_iff, Node.Stops]
  constructor
  · rintro h fault ⟨p, hp, hstops⟩
    exact h p hp fault hstops
  · intro h p hp fault hstops
    exact h fault ⟨p, hp, hstops⟩

/-- A node of unknown type has its one message whatever it holds. -/
theorem exists_messagesOf_iff (log : MessageLog) :
    (∃ messages, messagesOf log definitions n = .ok messages) ↔
      ∀ d ∈ definitions n.id, ∀ fault, ¬ n.Stops d fault := by
  unfold messagesOf
  cases hd : definitions n.id with
  | none => simp
  | some d =>
      simp only [Option.mem_def, Option.some.injEq, forall_eq', ← exists_nodeMessages_iff]
      constructor
      · rintro ⟨messages, h⟩
        obtain ⟨own, hown, _⟩ := bind_eq_ok_iff.mp h
        exact ⟨own, hown⟩
      · rintro ⟨own, hown⟩
        exact ⟨_, bind_eq_ok_iff.mpr ⟨own, hown, rfl⟩⟩

theorem messagesOf_error (h : messagesOf log definitions n = .error fault) :
    ∃ d ∈ definitions n.id, n.Stops d fault := by
  unfold messagesOf at h
  cases hd : definitions n.id with
  | none =>
      rw [hd] at h
      cases h
  | some d =>
      rw [hd] at h
      rcases bind_eq_error_iff.mp h with hown | ⟨_, _, hpure⟩
      · rcases bind_eq_error_iff.mp hown with hvalues | ⟨_, _, hpure⟩
        · exact ⟨d, rfl, valueMessages_error hvalues⟩
        · cases hpure
      · cases hpure

end Node

/-! ## One edge -/

/-- The messages about an edge break off with a fault. -/
inductive Edge.Stops (g : Graph) (definitions : Definitions) (e : Edge) : Fault → Prop where
  | key (noKey : e.targetInput.isKey = false) : e.Stops g definitions .wrongKind
  | output {d : NodeDefinition} (source : e.source ∈ g.ids) (target : e.target ∈ g.ids)
      (definition : definitions e.source = some d) (unknown : e.outputPin? d = none)
      (long : e.sourceOutput.isWritable = false) : e.Stops g definitions .wrongShape
  | input {d : NodeDefinition} (source : e.source ∈ g.ids) (target : e.target ∈ g.ids)
      (definition : definitions e.target = some d) (unknown : e.inputPin? d = none)
      (long : e.targetInput.isWritable = false) : e.Stops g definitions .wrongShape

section Edge

variable {g : Graph} {definitions : Definitions} {e : Edge} {fault : Fault}

theorem Edge.Stops.fault_eq (h : e.Stops g definitions fault) :
    fault = .wrongKind ∨ fault = .wrongShape := by
  cases h with
  | key => exact .inl rfl
  | output => exact .inr rfl
  | input => exact .inr rfl

theorem isKey_eq_false_iff :
    e.targetInput.isKey = false ↔ e.Stops g definitions .wrongKind := by
  constructor
  · exact .key
  · intro h
    cases h with
    | key noKey => exact noKey

theorem edgeIsWritable_eq_false_iff :
    edgeIsWritable g definitions e = false ↔ e.Stops g definitions .wrongShape := by
  unfold edgeIsWritable
  dsimp only
  split
  · rename_i hmissing
    refine iff_of_false (fun h => by cases h) ?_
    rintro (_ | ⟨source, target⟩ | ⟨source, target⟩)
    · simp [source, target] at hmissing
    · simp [source, target] at hmissing
  · rename_i hknown
    obtain ⟨source, target⟩ : e.source ∈ g.ids ∧ e.target ∈ g.ids := by simpa using hknown
    simp only [Bool.and_eq_false_iff, Bool.or_eq_false_iff, Bool.not_eq_false',
      Option.any_eq_true, Option.map_eq_some_iff, Option.isNone_iff_eq_none]
    constructor
    · rintro (⟨⟨_, ⟨d, hd, rfl⟩, unknown⟩, long⟩ | ⟨⟨_, ⟨d, hd, rfl⟩, unknown⟩, long⟩)
      · exact .output source target hd unknown long
      · exact .input source target hd unknown long
    · intro h
      cases h with
      | output _ _ hd unknown long => exact .inl ⟨⟨_, ⟨_, hd, rfl⟩, unknown⟩, long⟩
      | input _ _ hd unknown long => exact .inr ⟨⟨_, ⟨_, hd, rfl⟩, unknown⟩, long⟩

theorem not_stops_iff :
    (∀ fault, ¬ e.Stops g definitions fault) ↔
      e.targetInput.isKey = true ∧ edgeIsWritable g definitions e = true := by
  constructor
  · intro h
    constructor
    · by_contra hkey
      exact h _ (isKey_eq_false_iff.mp (Bool.eq_false_iff.mpr hkey))
    · by_contra hwritable
      exact h _ (edgeIsWritable_eq_false_iff.mp (Bool.eq_false_iff.mpr hwritable))
  · rintro ⟨hkey, hwritable⟩ fault hstops
    rcases hstops.fault_eq with rfl | rfl
    · rw [isKey_eq_false_iff.mpr hstops] at hkey
      cases hkey
    · rw [edgeIsWritable_eq_false_iff.mpr hstops] at hwritable
      cases hwritable

end Edge

/-! ## The whole graph -/

section Graph

variable {g : Graph} {r : Registry} {log : MessageLog} {definitions : Definitions}
  {nodes : List Node} {fault : Fault}

theorem exists_errorsOf_iff :
    (∃ errors, errorsOf log definitions nodes = .ok errors) ↔
      ∀ n ∈ nodes, ∃ messages, messagesOf log definitions n = .ok messages := by
  induction nodes with
  | nil => simp [errorsOf]
  | cons n nodes ih =>
      rw [List.forall_mem_cons, ← ih]
      simp only [errorsOf, exists_bind_ok_iff, pure_eq_ok_iff, exists_eq', and_true]
      exact exists_and_right

theorem errorsOf_error (h : errorsOf log definitions nodes = .error fault) :
    ∃ n ∈ nodes, ∃ d ∈ definitions n.id, n.Stops d fault := by
  induction nodes with
  | nil => cases h
  | cons n nodes ih =>
      rcases bind_eq_error_iff.mp h with hown | ⟨_, _, hrest⟩
      · exact ⟨n, List.mem_cons_self, messagesOf_error hown⟩
      · rcases bind_eq_error_iff.mp hrest with hothers | ⟨_, _, hpure⟩
        · obtain ⟨m, hm, hstops⟩ := ih hothers
          exact ⟨m, List.mem_cons_of_mem _ hm, hstops⟩
        · cases hpure

/-- Where validation fails, it is at an edge or at a value of some node. -/
theorem validate_error (h : validate g r = .error fault) :
    (∃ e ∈ g.edges, e.Stops g (r.definitionsOf g) fault) ∨
      ∃ n ∈ g.nodes, ∃ d ∈ r.definitionsOf g n.id, n.Stops d fault := by
  unfold validate at h
  -- the lookups of all pins come first, then the messages about the edges, then the nodes
  split at h
  · split at h
    · exact .inr (errorsOf_error h)
    · rename_i hwritable
      rw [Bool.not_eq_true, List.all_eq_false] at hwritable
      obtain ⟨e, he, hfalse⟩ := hwritable
      obtain rfl := Except.error.inj h
      exact .inl ⟨e, he, edgeIsWritable_eq_false_iff.mp (Bool.not_eq_true _ ▸ hfalse)⟩
  · rename_i hkeys
    rw [Bool.not_eq_true, List.all_eq_false] at hkeys
    obtain ⟨e, he, hfalse⟩ := hkeys
    obtain rfl := Except.error.inj h
    exact .inl ⟨e, he, isKey_eq_false_iff.mp (Bool.not_eq_true _ ▸ hfalse)⟩

theorem exists_validate_iff :
    (∃ errors, validate g r = .ok errors) ↔
      (∀ e ∈ g.edges, ∀ fault, ¬ e.Stops g (r.definitionsOf g) fault) ∧
        ∀ n ∈ g.nodes, ∀ d ∈ r.definitionsOf g n.id, ∀ fault, ¬ n.Stops d fault := by
  simp only [← exists_messagesOf_iff (connectionLog g (r.definitionsOf g)), ← exists_errorsOf_iff,
    not_stops_iff]
  unfold validate
  constructor
  · rintro ⟨errors, h⟩
    split at h
    · rename_i hkeys
      split at h
      · rename_i hwritable
        refine ⟨?_, errors, h⟩
        intro e he
        exact ⟨List.all_eq_true.mp hkeys e he, List.all_eq_true.mp hwritable e he⟩
      · cases h
    · cases h
  · rintro ⟨hedges, errors, h⟩
    refine ⟨errors, ?_⟩
    rw [if_pos (List.all_eq_true.mpr fun e he => (hedges e he).1),
      if_pos (List.all_eq_true.mpr fun e he => (hedges e he).2)]
    exact h

/-- Validation answers exactly if it can go on at every edge and no node holds a value that cannot
be checked. Where it fails, one of these is the cause, and the fault is that of the cause. Nothing is
assumed of the graph: ids may repeat, ends may be missing, edges may run in a circle. -/
theorem validate_answers (g : Graph) (r : Registry) :
    ((∃ errors, validate g r = .ok errors) ↔
      (∀ e ∈ g.edges, ∀ fault, ¬ e.Stops g (r.definitionsOf g) fault) ∧
        ∀ n ∈ g.nodes, ∀ d ∈ r.definitionsOf g n.id, ∀ fault, ¬ n.Stops d fault) ∧
    ∀ fault, validate g r = .error fault →
      (∃ e ∈ g.edges, e.Stops g (r.definitionsOf g) fault) ∨
        ∃ n ∈ g.nodes, ∃ d ∈ r.definitionsOf g n.id, n.Stops d fault :=
  ⟨exists_validate_iff, fun _ h => validate_error h⟩

end Graph

/-- An integer with one digit more than can be written. -/
def tooLong : Value := .int (10 ^ 4300 : ℕ)

theorem not_isWritable_tooLong : tooLong.isWritable = false := by decide +kernel

/-- An integer that no double stands for gets no message: the validation fails. -/
theorem printed_tooLarge_fails :
    validate (printed (.int (10 ^ 400))) numberTypes = .error .overflow := by
  have hrun : (match validate (printed (.int (10 ^ 400))) numberTypes with
      | .error .overflow => true
      | _ => false) = true := by decide +kernel
  split at hrun
  · rename_i h
    exact h
  · cases hrun

end NodeGraph
