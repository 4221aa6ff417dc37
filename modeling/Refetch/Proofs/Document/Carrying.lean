import Refetch.Proofs.Document.Rules

/-!
# Reading relabelled lexemes

No rule of the grammar looks at the place of a lexeme or at the characters of a quoted text;
it only hands them on. So relabelled lexemes are read to the relabelled node, rule by rule.

* `Grammar.document_relabel` — the law for whole documents
* `Grammar.document_congr` — lexemes that are equal once relabelled are read to documents that
  are
* `Document.ofScan_congr` — the same of the lexemes of whole texts
-/

namespace Refetch

/-! ## Sorted members -/

/-- Where a member is put depends on the names only, so values may be changed before or after. -/
theorem insertMember_map {α β : Type} (f : α → β) (key : String) (value : α)
    (members : List (String × α)) :
    insertMember key (f value) (members.map (Prod.map id f)) =
      (insertMember key value members).map (Prod.map id f) := by
  induction members with
  | nil => rfl
  | cons member rest ih =>
    obtain ⟨other, old⟩ := member
    rw [List.map_cons, Prod.map_apply, insertMember, insertMember]
    simp only [id]
    split
    · rfl
    · split
      · rfl
      · rw [ih]
        rfl

/-- Members are sorted by their names only, so values may be changed before or after. -/
theorem sortMembers_map {α β : Type} (f : α → β) (members : List (String × α)) :
    sortMembers (members.map (Prod.map id f)) = (sortMembers members).map (Prod.map id f) := by
  have hfold : ∀ (members sorted : List (String × α)),
      (members.map (Prod.map id f)).foldl
          (fun sorted member => insertMember member.1 member.2 sorted)
          (sorted.map (Prod.map id f)) =
        (members.foldl (fun sorted member => insertMember member.1 member.2 sorted)
          sorted).map (Prod.map id f) := by
    intro members
    induction members with
    | nil => exact fun sorted => rfl
    | cons member rest ih =>
      intro sorted
      rw [List.map_cons, List.foldl_cons, List.foldl_cons, ← ih, ← insertMember_map]
      rfl
  exact hfold members []

namespace Grammar

open Reader

variable {φ : Relabelling}

/-! ## Values and types -/

/-- A bare name is no text, whichever value it is. -/
theorem relabel_ofName (text : String) : (Value.ofName text).relabel φ = Value.ofName text := by
  unfold Value.ofName
  split
  · rw [Value.relabel]
  · split
    · rw [Value.relabel]
    · split <;> rw [Value.relabel]

/-- Of the values without parts a relabelling changes quoted texts only. -/
theorem carries_scalar (constant : Bool) :
    Carries φ (·.relabel φ) (scalar constant) (scalar constant) := by
  intro input
  rcases input with _ | ⟨⟨pos, token⟩, input⟩
  · rfl
  · cases token with
    | punct mark =>
      cases mark with
      | dollar =>
        cases constant with
        | true => rfl
        | false =>
          have hvariable : Carries φ (·.relabel φ) variableName variableName :=
            Carries.name.bind fun text => Carries.pure (by rw [Value.relabel]; rfl)
          exact hvariable input
      | _ => rfl
    | name text =>
      change Except.ok (Value.ofName text, relabelLexemes φ input) =
        Except.ok ((Value.ofName text).relabel φ, relabelLexemes φ input)
      rw [relabel_ofName]
    | int n => rfl
    | float x => rfl
    | string text => rfl

theorem carries_member {value : Reader Value} (h : Carries φ (·.relabel φ) value value) :
    Carries φ (Prod.map id (·.relabel φ)) (member value) (member value) :=
  Carries.name.bind fun _ => (Carries.punct .colon).bind fun _ => h.bind fun _ =>
    Carries.pure rfl

/-- Lists and objects are relabelled value by value, and an object's members keep their order. -/
theorem carries_value (constant : Bool) (depth : Nat) :
    Carries φ (·.relabel φ) (value constant depth) (value constant depth) := by
  induction depth with
  | zero => exact carries_scalar constant
  | succ depth ih =>
    refine (Carries.sees .bracketOpen).bind fun isList => ?_
    cases isList with
    | true =>
      refine (Carries.between .bracketOpen .bracketClose ih).bind fun items => ?_
      exact Carries.pure (by rw [Value.relabel, relabelItems_eq_map])
    | false =>
      refine (Carries.sees .braceOpen).bind fun isObject => ?_
      cases isObject with
      | true =>
        refine (Carries.between .braceOpen .braceClose (carries_member ih)).bind
          fun members => ?_
        exact Carries.pure (by rw [Value.relabel, relabelMembers_eq_map, sortMembers_map])
      | false => exact carries_scalar constant

theorem carries_withBang (type : TypeRef) : Carries φ id (withBang type) (withBang type) := by
  refine (Carries.sees .bang).bind fun seen => ?_
  cases seen with
  | true => exact (Carries.punct .bang).bind fun _ => Carries.pure rfl
  | false => exact Carries.pure rfl

theorem carries_type (depth : Nat) : Carries φ id (type depth) (type depth) := by
  induction depth with
  | zero => exact Carries.name.bind fun text => carries_withBang _
  | succ depth ih =>
    refine (Carries.sees .bracketOpen).bind fun isList => ?_
    cases isList with
    | true =>
      exact (Carries.punct .bracketOpen).bind fun _ => ih.bind fun inner =>
        (Carries.punct .bracketClose).bind fun _ => carries_withBang _
    | false => exact Carries.name.bind fun text => carries_withBang _

/-! ## Arguments, directives and variables -/

/-- Items in parentheses are relabelled one by one, and missing ones stay missing. -/
theorem carries_parenthesized {α : Type} {f : α → α} {item : Nat → Reader α}
    (h : ∀ depth, Carries φ f (item depth) (item depth)) (depth : Nat) :
    Carries φ (List.map f) (parenthesized item depth) (parenthesized item depth) := by
  refine (Carries.sees .parenOpen).bind fun seen => ?_
  cases seen with
  | true =>
    cases depth with
    | zero => exact Carries.fail
    | succ depth =>
      exact (Carries.someBetween .parenOpen .parenClose (h depth)).bind fun _ =>
        Carries.pure rfl
  | false => exact Carries.pure rfl

theorem carries_arguments (depth : Nat) :
    Carries φ (List.map (Prod.map id (·.relabel φ))) (arguments depth) (arguments depth) :=
  carries_parenthesized (fun depth => carries_member (carries_value false depth)) depth

theorem carries_directive (depth : Nat) :
    Carries φ (·.relabel φ) (directive depth) (directive depth) := by
  refine (Carries.punct .atSign).bind fun pos => Carries.name.bind fun name =>
    (carries_arguments depth).bind fun args => ?_
  exact Carries.pure (by rw [Directive.relabel, relabelMembers_eq_map]; rfl)

theorem carries_directives (depth : Nat) :
    Carries φ (List.map (·.relabel φ)) (directives depth) (directives depth) :=
  Carries.whileSees .atSign (carries_directive depth)

/-- A variable's place and its default are relabelled, and neither name nor type is. -/
theorem carries_variableDef (depth : Nat) :
    Carries φ (·.relabel φ) (variableDef depth) (variableDef depth) := by
  refine (Carries.punct .dollar).bind fun pos => Carries.name.bind fun name =>
    (Carries.punct .colon).bind fun _ => (carries_type depth).bind fun type =>
      (Carries.sees .equals).bind fun seen => ?_
  cases seen with
  | true =>
    exact (Carries.punct .equals).bind fun _ => (carries_value true depth).bind fun value =>
      Carries.pure rfl
  | false => exact Carries.pure rfl

/-! ## Selections -/

section Selections

variable (depth : Nat) {selections : Reader SelectionSet}
  (h : Carries φ (·.relabel φ) selections selections)

include h

/-- What follows a field's name is told the field's place, which is relabelled with the rest. -/
theorem carries_afterName (pos : Pos) (alias? : Option String) (name : String) :
    Carries φ (·.relabel φ) (afterName depth selections pos alias? name)
      (afterName depth selections (φ.place pos) alias? name) := by
  refine (carries_arguments depth).bind fun args => (carries_directives depth).bind fun dirs =>
    (Carries.sees .braceOpen).bind fun seen => ?_
  cases seen with
  | true =>
    refine h.bind fun set => Carries.pure ?_
    rw [Selection.relabel, FieldHead.relabel, relabelMembers_eq_map]
    rfl
  | false =>
    refine Carries.pure ?_
    rw [Selection.relabel, FieldHead.relabel, relabelMembers_eq_map, relabelSelections]
    rfl

theorem carries_field :
    Carries φ (·.relabel φ) (field depth selections) (field depth selections) := by
  rw [field_eq]
  refine Carries.here.bind fun pos => Carries.name.bind fun first =>
    (Carries.sees .colon).bind fun seen => ?_
  cases seen with
  | true =>
    exact (Carries.punct .colon).bind fun _ => Carries.name.bind fun name =>
      carries_afterName depth h pos (some first) name
  | false => exact carries_afterName depth h pos none first

/-- Which of the three things follows the dots is told by a name, which no relabelling changes. -/
theorem carries_afterEllipsis :
    Carries φ (·.relabel φ) (afterEllipsis depth selections)
      (afterEllipsis depth selections) := by
  refine Carries.here.bind fun pos => Carries.name?.bind fun found => ?_
  cases found with
  | none =>
    refine (carries_directives depth).bind fun dirs => h.bind fun set => Carries.pure ?_
    rw [Selection.relabel]
    rfl
  | some text =>
    change Carries φ _ (if text = "on" then _ else _) (if text = "on" then _ else _)
    by_cases hon : text = "on"
    · rw [if_pos hon, if_pos hon]
      refine Carries.name.bind fun condition => (carries_directives depth).bind fun dirs =>
        h.bind fun set => Carries.pure ?_
      rw [Selection.relabel]
      rfl
    · rw [if_neg hon, if_neg hon]
      refine (carries_directives depth).bind fun dirs => Carries.pure ?_
      rw [Selection.relabel]

theorem carries_selection :
    Carries φ (·.relabel φ) (selection depth selections) (selection depth selections) := by
  refine (Carries.sees .ellipsis).bind fun seen => ?_
  cases seen with
  | true => exact (Carries.punct .ellipsis).bind fun _ => carries_afterEllipsis depth h
  | false => exact carries_field depth h

end Selections

theorem carries_selectionSet (depth : Nat) :
    Carries φ (·.relabel φ) (selectionSet depth) (selectionSet depth) := by
  induction depth with
  | zero => exact Carries.fail
  | succ depth ih =>
    refine (Carries.someBetween .braceOpen .braceClose (carries_selection depth ih)).bind
      fun found => Carries.pure ?_
    rw [SelectionSet.relabel, relabelSelections_eq_map]

/-! ## Definitions -/

theorem carries_operation (kind : OperationKind) (pos : Pos) :
    Carries φ (·.relabel φ) (operation kind pos) (operation kind (φ.place pos)) :=
  Carries.name?.bind fun _ => (carries_parenthesized carries_variableDef _).bind fun _ =>
    (carries_directives _).bind fun _ => (carries_selectionSet _).bind fun _ =>
      Carries.pure rfl

theorem carries_fragment (pos : Pos) :
    Carries φ (·.relabel φ) (fragment pos) (fragment (φ.place pos)) :=
  Carries.name.bind fun _ => (Carries.keyword "on").bind fun _ => Carries.name.bind fun _ =>
    (carries_directives _).bind fun _ => (carries_selectionSet _).bind fun _ =>
      Carries.pure rfl

theorem carries_bareOperation : Carries φ (·.relabel φ) bareOperation bareOperation :=
  (carries_selectionSet _).bind fun _ => Carries.pure rfl

theorem carries_definition : Carries φ (·.relabel φ) definition definition := by
  intro input
  rcases input with _ | ⟨⟨pos, token⟩, input⟩
  · exact carries_bareOperation []
  · cases token with
    | name text =>
      change definition (⟨φ.place pos, .name text⟩ :: relabelLexemes φ input) = _
      rw [definition, definition]
      -- the keyword is a name, which no relabelling changes
      rcases operationKind? text with _ | kind
      · by_cases hfragment : text = "fragment"
        · simp only [hfragment, if_true]
          exact carries_fragment pos input
        · simp only [hfragment, if_false]
          rfl
      · exact carries_operation kind pos input
    | punct mark => exact carries_bareOperation (⟨pos, .punct mark⟩ :: input)
    | int n => exact carries_bareOperation (⟨pos, .int n⟩ :: input)
    | float x => exact carries_bareOperation (⟨pos, .float x⟩ :: input)
    | string text => exact carries_bareOperation (⟨pos, .string text⟩ :: input)

/-- A document is read from relabelled lexemes to the relabelled document, and where it cannot be
read it cannot be read from the relabelled lexemes either. -/
theorem carries_document : Carries φ (·.relabel φ) document document :=
  carries_definition.bind fun _ => carries_definition.toEnd.bind fun _ => Carries.pure rfl

/-- A document is read from relabelled lexemes to the relabelled document. -/
theorem document_relabel {input rest : List Lexeme} {d : Document}
    (h : document input = .ok (d, rest)) :
    document (relabelLexemes φ input) = .ok (d.relabel φ, relabelLexemes φ rest) := by
  rw [carries_document input, h]
  rfl

/-- Lexemes that differ in nothing but what a relabelling forgets are read to documents that
differ in nothing else. -/
theorem document_congr {input input' rest : List Lexeme} {d : Document}
    (heq : relabelLexemes φ input = relabelLexemes φ input')
    (h : document input = .ok (d, rest)) :
    ∃ e, document input' = .ok (e, []) ∧ d.relabel φ = e.relabel φ := by
  have hrelabel := document_relabel (φ := φ) h
  rw [heq, carries_document input'] at hrelabel
  rcases he : document input' with rest' | ⟨e, rest'⟩
  · -- an outcome is an error on both sides or on neither
    rw [he] at hrelabel
    cases hrelabel
  · rw [he] at hrelabel
    obtain rfl := document_rest he
    exact ⟨e, rfl, (Prod.mk.inj (Except.ok.inj hrelabel)).1.symm⟩

end Grammar

/-- Lexemes that differ in nothing but what a relabelling forgets are those of documents that
differ in nothing else. -/
theorem Document.ofScan_congr {φ : Relabelling} {scan scan' : Scan} {d : Document}
    (hcomplete : scan'.complete = true)
    (hlexemes : relabelLexemes φ scan.lexemes = relabelLexemes φ scan'.lexemes)
    (h : ofScan scan = .ok d) :
    ∃ e, ofScan scan' = .ok e ∧ e.relabel φ = d.relabel φ := by
  obtain ⟨-, hd⟩ := ofScan_eq_ok_iff.mp h
  obtain ⟨e, he, hrelabel⟩ := Grammar.document_congr hlexemes hd
  exact ⟨e, ofScan_eq_ok_iff.mpr ⟨hcomplete, he⟩, hrelabel.symm⟩

end Refetch
