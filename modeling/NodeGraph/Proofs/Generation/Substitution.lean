import NodeGraph.Proofs.Generation.Placeholders
import NodeGraph.Proofs.Generation.References
import NodeGraph.Proofs.Generation.Source

/-!
# One pass over the template

The source of a node is its template with what the search finds replaced, once and from left to
right. What is put in is not searched: which placeholders there are depends on the template alone.
So nothing that a user writes can become a placeholder, and no placeholder of the template stays
behind, except that braces are only taken for one if they are closed on their line.
-/

namespace NodeGraph

namespace Expansion

open Template (Piece Scan Covers ClosesOnLine)

variable {x : Expansion}

/-! ## Stretches and placeholders -/

/-- The stretches of a template, each with what is put in for the placeholder behind it. -/
def spliced (found : List (List Char × List Char)) (targets : List Target) (tail : List Char) :
    String :=
  String.join (List.zipWith (fun p t => String.ofList p.1 ++ t.string) found targets) ++
    String.ofList tail

/-- A stretch of the template stands for itself. -/
def stretchTargets (stretch : List Char) : List Target := stretch.map fun c => .text c.toString

/-- The same character by character, as what stands for the pieces. -/
def filled (found : List (List Char × List Char)) (targets : List Target) (tail : List Char) :
    List Target :=
  (List.zipWith (fun p t => stretchTargets p.1 ++ [t]) found targets).flatten ++ stretchTargets tail

section

variable {found : List (List Char × List Char)} {targets : List Target} {tail : List Char}

theorem gives_stretchTargets (x : Expansion) (stretch : List Char) :
    List.Forall₂ x.Gives (stretch.map .literal) (stretchTargets stretch) := by
  induction stretch with
  | nil => exact .nil
  | cons c stretch ih => exact .cons (.literal c) ih

theorem join_stretchTargets (stretch : List Char) :
    String.join ((stretchTargets stretch).map Target.string) = String.ofList stretch := by
  induction stretch with
  | nil => rfl
  | cons c stretch ih =>
      rw [stretchTargets, List.map_cons, List.map_cons, String.join_cons, String.ofList_cons, ← ih]
      rw [← Char.toString_eq_singleton]
      rfl

theorem any_isOutput_stretchTargets (stretch : List Char) :
    (stretchTargets stretch).any (·.isOutput) = false := by
  rw [stretchTargets, List.any_map, List.any_eq_false]
  exact fun c _ => Bool.false_ne_true

theorem gives_filled (tail : List Char)
    (h : List.Forall₂ (fun p t => x.Gives (.placeholder p.2) t) found targets) :
    List.Forall₂ x.Gives (found.flatMap Template.segment ++ tail.map .literal)
      (filled found targets tail) := by
  refine List.rel_append ?_ (x.gives_stretchTargets tail)
  induction h with
  | nil => exact .nil
  | @cons p t found targets hfirst _ ih =>
      rw [List.flatMap_cons, List.zipWith_cons_cons, List.flatten_cons]
      exact List.rel_append (List.rel_append (x.gives_stretchTargets p.1) (.cons hfirst .nil)) ih

theorem join_filled :
    String.join ((filled found targets tail).map Target.string) = spliced found targets tail := by
  rw [filled, List.map_append, String.join_append, join_stretchTargets, spliced]
  congr 1
  induction found generalizing targets with
  | nil => rfl
  | cons p found ih =>
      cases targets with
      | nil => rfl
      | cons t targets =>
          simp only [List.zipWith_cons_cons, List.flatten_cons, List.map_append, List.map_cons,
            List.map_nil, String.join_append, String.join_cons, String.join_nil,
            join_stretchTargets, String.append_empty, ih]

theorem any_isOutput_filled (tail : List Char) (hlength : found.length = targets.length) :
    (filled found targets tail).any (·.isOutput) = targets.any (·.isOutput) := by
  rw [filled, List.any_append, any_isOutput_stretchTargets, Bool.or_false]
  induction found generalizing targets with
  | nil => rw [List.length_eq_zero_iff.mp hlength.symm]; rfl
  | cons p found ih =>
      cases targets with
      | nil => cases hlength
      | cons t targets =>
          rw [List.zipWith_cons_cons, List.flatten_cons, List.any_append, List.any_append,
            any_isOutput_stretchTargets, ih (Nat.succ.inj hlength), List.any_cons]
          simp

end

/-! ## What is put in -/

section

variable {found before after : List (List Char × List Char)} {targets : List Target}
  {tail : List Char} {p : List Char × List Char}

/-- What is put in for a placeholder, which can be written. -/
def Fills (x : Expansion) (p : List Char × List Char) (t : Target) : Prop :=
  x.Inserts p.2 t ∧ x.isWritable (.ofInner p.2) = true

theorem fills_iff {t : Target} : x.Fills p t ↔ x.Gives (.placeholder p.2) t := by
  rw [Fills, inserts_iff]
  constructor
  · rintro ⟨resolves, writable⟩
    exact .placeholder resolves writable
  · intro h
    cases h with
    | placeholder resolves writable => exact ⟨resolves, writable⟩

/-- What is put in at the placeholders and what stands for all pieces of the template. -/
theorem gives_of_fills (hscan : Scan x.definition.template.toList found tail)
    (h : List.Forall₂ x.Fills found targets) :
    List.Forall₂ x.Gives (Template.pieces x.definition.template.toList)
      (filled found targets tail) := by
  rw [hscan.pieces_eq]
  exact gives_filled tail (h.imp fun _ _ hfills => fills_iff.mp hfills)

theorem expand_of_stuck (hscan : Scan x.definition.template.toList (before ++ p :: after) tail)
    (h : List.Forall₂ x.Fills before targets) {fault : Fault}
    (hstuck : x.Stuck (.placeholder p.2) fault) : x.expand = .error fault := by
  rw [expand_eq_error_iff, hscan.pieces_eq, List.flatMap_append, List.flatMap_cons]
  have hgives := List.rel_append (gives_filled [] (h.imp fun _ _ => fills_iff.mp))
    (x.gives_stretchTargets p.1)
  rw [List.map_nil, List.append_nil] at hgives
  have hpieces : x.targets _ = .error fault :=
    targets_of_stuck hgives hstuck (after.flatMap Template.segment ++ tail.map .literal)
  simpa only [Template.segment, List.append_assoc, List.cons_append, List.nil_append] using hpieces

end

/-- What the search finds in the template decides what is replaced, and nothing that is put in. If
there is something to put in for each placeholder, the source is the stretches of the template as
they are with these texts in between, without blanks at its ends. It is the value of a `let` exactly
if there is one output and nothing that is put in is an output. Otherwise the first placeholder that
stands for nothing is the fault, unless one before it stands for what cannot be written. -/
theorem expand_single_pass (x : Expansion) :
    (∃ found tail, Scan x.definition.template.toList found tail) ∧
    ∀ found tail, Scan x.definition.template.toList found tail →
      (∀ targets, List.Forall₂ x.Fills found targets →
        (∀ pin, x.definition.pins.outputs = [pin] → (∀ t ∈ targets, t.isOutput = false) →
          x.expand = .ok ("let " ++ outputIdentifier x.node.id pin.name ++ " = " ++
            trimBlank (spliced found targets tail) ++ ";")) ∧
        (x.definition.pins.outputs.length ≠ 1 ∨ (∃ t ∈ targets, t.isOutput = true) →
          x.expand = .ok (trimBlank (spliced found targets tail)))) ∧
      ∀ before p after targets, found = before ++ p :: after →
        List.Forall₂ x.Fills before targets →
        ((¬ ∃ t, x.Inserts p.2 t) → x.expand = .error (.brokenTemplate x.definition.name
          (String.ofList (Piece.placeholder p.2).source) x.node.id)) ∧
        ((∃ t, x.Inserts p.2 t) → x.isWritable (.ofInner p.2) = false →
          x.expand = .error .wrongShape) := by
  refine ⟨Template.exists_scan _, fun found tail hscan => ⟨fun targets hfills => ?_, ?_⟩⟩
  · have hgives := gives_of_fills hscan hfills
    have houtputs := any_isOutput_filled tail hfills.length_eq
    constructor
    · intro pin hpin hnone
      rw [← join_filled]
      refine expand_eq_let hgives hpin (houtputs.trans ?_)
      rw [List.any_eq_false]
      intro t ht
      simp [hnone t ht]
    · intro hplain
      rw [← join_filled]
      refine expand_eq_text hgives (hplain.imp_right ?_)
      rintro ⟨t, ht, houtput⟩
      exact houtputs.trans (List.any_eq_true.mpr ⟨t, ht, houtput⟩)
  · rintro before p after targets rfl hfills
    constructor
    · intro hnone
      refine expand_of_stuck hscan hfills (.unknown ?_)
      refine Option.eq_none_iff_forall_ne_some.mpr fun t ht => hnone ⟨t, inserts_iff.mpr ht⟩
    · rintro ⟨t, hinserts⟩ hlong
      exact expand_of_stuck hscan hfills (.unwritable (inserts_iff.mp hinserts) hlong)

/-- A note with a text that cannot be written. -/
def longText : Expansion :=
  ⟨note tooLong, noteType "\x7b\x7btext\x7d\x7d", [], Settings.standard.unconnectedInput⟩

theorem pieces_longText :
    Template.pieces longText.definition.template.toList = [.placeholder "text".toList] := by decide

/-- Each placeholder stands for something, but there is no source. -/
theorem longText_not_expanded :
    (∀ found tail, Scan longText.definition.template.toList found tail →
      ∀ p ∈ found, ∃ t, longText.Inserts p.2 t) ∧ longText.expand = .error .wrongShape := by
  have hresolve : longText.resolve (.ofInner "text".toList) = some (.text _) := rfl
  constructor
  · intro found tail hscan p hp
    have hmem := hscan.placeholder_mem hp
    rw [pieces_longText, List.mem_singleton] at hmem
    rw [Piece.placeholder.inj hmem]
    exact ⟨_, inserts_iff.mpr hresolve⟩
  · rw [expand_eq_error_iff, pieces_longText]
    exact targets_cons_of_stuck
      (.unwritable hresolve (isWritable_note.trans not_isWritable_tooLong))

/-! ## Braces that stay -/

/-- Opening braces are replaced together with the placeholder they belong to exactly if closing ones
follow on their line; otherwise they stay in the source. A placeholder that stands for nothing is a
fault. -/
theorem placeholders_replaced (x : Expansion) :
    (∀ code, x.expand = .ok code →
      ∀ pre rest, x.definition.template.toList = pre ++ '\x7b' :: '\x7b' :: rest →
        (ClosesOnLine rest ↔ ∃ before inner after texts text texts',
          Template.pieces x.definition.template.toList = before ++ .placeholder inner :: after ∧
            Covers before inner pre ∧ texts.length = before.length ∧
            x.text? (.placeholder inner) = some text ∧ x.Renders (texts ++ text :: texts') code) ∧
        (¬ ClosesOnLine rest → ∃ before after texts texts',
          Template.pieces x.definition.template.toList =
              before ++ .literal '\x7b' :: .literal '\x7b' :: after ∧
            before.flatMap Piece.source = pre ∧ texts.length = before.length ∧
            x.Renders (texts ++ "\x7b" :: "\x7b" :: texts') code)) ∧
    ∀ inner, .placeholder inner ∈ Template.pieces x.definition.template.toList →
      (¬ ∃ t, x.Inserts inner t) →
        (∃ placeholder,
          x.expand = .error (.brokenTemplate x.definition.name placeholder x.node.id)) ∨
        x.expand = .error .wrongShape ∧ ¬ x.Writable := by
  constructor
  · intro code hcode pre rest hbraces
    obtain ⟨texts, hrenders⟩ := expand_renders hcode
    refine ⟨⟨fun hcloses => ?_, ?_⟩, fun hopen => ?_⟩
    · obtain ⟨before, inner, after, hpieces, hcovers⟩ := hcloses.exists_covers hbraces
      obtain ⟨front, text, back, rfl, hlength, htext, _⟩ :=
        exists_split_of_forall₂ (hpieces ▸ hrenders.pieces)
      exact ⟨before, inner, after, front, text, back, hpieces, hcovers, hlength, htext, hrenders⟩
    · rintro ⟨before, inner, after, _, _, _, hpieces, hcovers, _⟩
      exact Template.closesOnLine_of_covers hpieces hcovers hbraces
    · obtain ⟨before, after, hpieces, hpre⟩ :=
        Template.exists_literal_of_not_closesOnLine hopen hbraces
      obtain ⟨front, first, back, rfl, hlength, hfirst, hback⟩ :=
        exists_split_of_forall₂ (hpieces ▸ hrenders.pieces)
      obtain ⟨second, back, hsecond, _, rfl⟩ := List.forall₂_cons_left_iff.mp hback
      obtain rfl := Option.some.inj hfirst
      obtain rfl := Option.some.inj hsecond
      exact ⟨before, after, front, back, hpieces, hpre, hlength, hrenders⟩
  · intro inner hmem hnone
    cases hexpand : x.expand with
    | error fault =>
        rcases expand_error hexpand with ⟨placeholder, rfl⟩ | ⟨rfl, hlong⟩
        · exact .inl ⟨placeholder, rfl⟩
        · exact .inr ⟨rfl, hlong⟩
    | ok code =>
        obtain ⟨texts, hrenders⟩ := expand_renders hexpand
        obtain ⟨text, _, htext⟩ := exists_right_of_forall₂ hrenders.pieces hmem
        obtain ⟨t, ht, _⟩ := Option.map_eq_some_iff.mp htext
        exact absurd ⟨t, inserts_iff.mpr ht⟩ hnone

/-- A type without fields and pins whose template refers to something over the end of a line. -/
def brokenLine : Expansion :=
  ⟨⟨"n", "Call", .origin, []⟩,
    { noteType "call(\x7b\x7ba\nb\x7d\x7d);" with name := "Call", fields := .empty }, [],
    Settings.standard.unconnectedInput⟩

/-- The braces are closed on the next line, and nothing has the name between them: they are put into
the source as they are. -/
theorem brokenLine_stays :
    brokenLine.definition.template.toList = "call(".toList ++ '\x7b' :: '\x7b' ::
        ("a\nb".toList ++ '\x7d' :: '\x7d' :: ");".toList) ∧
      (¬ ∃ t, brokenLine.Inserts "a\nb".toList t) ∧
      brokenLine.expand = .ok "call(\x7b\x7ba\nb\x7d\x7d);" := by
  refine ⟨by decide, ?_, by decide +kernel⟩
  rintro ⟨t, hinserts⟩
  have hnone : brokenLine.resolve (.ofInner "a\nb".toList) = none := by decide +kernel
  cases hnone.symm.trans (inserts_iff.mp hinserts)

end Expansion

end NodeGraph
