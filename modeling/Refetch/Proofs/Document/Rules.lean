import Refetch.Document.Grammar
import Refetch.Proofs.Document.Lookahead

/-!
# Chunks of the grammar

Each rule of the grammar looks no further ahead than one lexeme. The rules that end in a mark
of their own look at nothing that follows: values, selection sets and definitions.

* `Grammar.document_append` — two documents one after the other are read as one
* `Grammar.document_rest`, `Grammar.document_ends` — a document is read to the end of the
  input, and ends with a closing brace
-/

namespace Refetch

namespace Grammar

open Reader

/-! ## Values and types -/

/-- A value without parts is one lexeme, or two if it is a variable. -/
theorem closed_scalar (constant : Bool) : (scalar constant).Closed := by
  intro input x rest h
  rcases input with _ | ⟨⟨pos, token⟩, input⟩
  · cases h
  · cases token with
    | punct mark =>
      cases mark with
      | dollar =>
        rw [scalar] at h
        cases constant with
        | true => cases h
        | false =>
          obtain ⟨text, middle, htext, hx⟩ := bind_eq_ok h
          obtain ⟨rfl, rfl⟩ := pure_eq_ok hx
          obtain ⟨pos', rfl⟩ := name_eq_ok htext
          exact ⟨[⟨pos, .punct .dollar⟩, ⟨pos', .name text⟩], List.cons_ne_nil _ _, rfl,
            fun next more _ => rfl⟩
      | _ => cases h
    | name text =>
      obtain ⟨rfl, rfl⟩ := Prod.mk.inj (Except.ok.inj h)
      exact ⟨[⟨pos, .name text⟩], List.cons_ne_nil _ _, rfl, fun next more _ => rfl⟩
    | int n =>
      obtain ⟨rfl, rfl⟩ := Prod.mk.inj (Except.ok.inj h)
      exact ⟨[⟨pos, .int n⟩], List.cons_ne_nil _ _, rfl, fun next more _ => rfl⟩
    | float x =>
      obtain ⟨rfl, rfl⟩ := Prod.mk.inj (Except.ok.inj h)
      exact ⟨[⟨pos, .float x⟩], List.cons_ne_nil _ _, rfl, fun next more _ => rfl⟩
    | string text =>
      obtain ⟨rfl, rfl⟩ := Prod.mk.inj (Except.ok.inj h)
      exact ⟨[⟨pos, .string text⟩], List.cons_ne_nil _ _, rfl, fun next more _ => rfl⟩

theorem closed_member {value : Reader Value} (h : value.Closed) : (member value).Closed :=
  closed_name.looksAhead.bind_closed fun _ =>
    (closed_punct .colon).looksAhead.bind_closed fun _ => h.map _

/-- A value of any depth is read whatever follows it. -/
theorem closed_value (constant : Bool) (depth : Nat) : (value constant depth).Closed := by
  induction depth with
  | zero => exact closed_scalar constant
  | succ depth ih =>
    refine (looksAhead_sees .bracketOpen).bind_closed fun isList => ?_
    split
    · exact (closed_between .bracketOpen ih.takes).map _
    · refine (looksAhead_sees .braceOpen).bind_closed fun isObject => ?_
      split
      · exact (closed_between .braceOpen (closed_member ih).takes).map _
      · exact closed_scalar constant

theorem looksAhead_withBang (type : TypeRef) : (withBang type).LooksAhead := by
  refine (looksAhead_sees .bang).bind fun seen => ?_
  split
  · exact ((closed_punct .bang).map _).looksAhead
  · exact looksAhead_pure _

/-- A type of any depth has a name in it, and looks one lexeme ahead for a bang. -/
theorem takes_type (depth : Nat) : (type depth).Takes := by
  induction depth with
  | zero => exact closed_name.takes.bind fun text => looksAhead_withBang _
  | succ depth ih =>
    refine (looksAhead_sees .bracketOpen).bind_takes fun isList => ?_
    split
    · exact (closed_punct .bracketOpen).takes.bind fun _ => ih.looksAhead.bind fun inner =>
        (closed_punct .bracketClose).looksAhead.bind fun _ => looksAhead_withBang _
    · exact closed_name.takes.bind fun text => looksAhead_withBang _

/-! ## Arguments, directives and variables -/

/-- Items in parentheses may be missing, which is seen of the next lexeme. -/
theorem looksAhead_parenthesized {α : Type} {item : Nat → Reader α}
    (h : ∀ depth, (item depth).Takes) (depth : Nat) : (parenthesized item depth).LooksAhead := by
  refine (looksAhead_sees .parenOpen).bind fun seen => ?_
  split
  · cases depth with
    | zero => exact closed_fail.looksAhead
    | succ depth => exact ((closed_someBetween .parenOpen (h depth)).map _).looksAhead
  · exact looksAhead_pure _

theorem looksAhead_arguments (depth : Nat) : (arguments depth).LooksAhead :=
  looksAhead_parenthesized (fun depth => (closed_member (closed_value false depth)).takes) depth

theorem takes_directive (depth : Nat) : (directive depth).Takes :=
  (closed_punct .atSign).takes.bind fun _ => closed_name.looksAhead.bind fun _ =>
    (looksAhead_arguments depth).bind fun _ => looksAhead_pure _

theorem looksAhead_directives (depth : Nat) : (directives depth).LooksAhead :=
  looksAhead_whileSees (takes_directive depth)

/-- A variable starts with its mark, and looks one lexeme ahead for a default. -/
theorem takes_variableDef (depth : Nat) : (variableDef depth).Takes := by
  refine (closed_punct .dollar).takes.bind fun pos => closed_name.looksAhead.bind fun name =>
    (closed_punct .colon).looksAhead.bind fun _ =>
      (takes_type depth).looksAhead.bind fun type =>
        (looksAhead_sees .equals).bind fun seen => ?_
  split
  · exact (closed_punct .equals).looksAhead.bind fun _ =>
      ((closed_value true depth).map _).looksAhead
  · exact looksAhead_pure _

/-! ## Selections -/

/-- What is read of a field after its name. -/
def afterName (depth : Nat) (selections : Reader SelectionSet) (pos : Pos)
    (alias? : Option String) (name : String) : Reader Selection := do
  let args ← arguments depth
  let dirs ← directives depth
  if ← sees .braceOpen then
    let set ← selections
    return .field ⟨pos, alias?, name, args, dirs⟩ set.span set.items
  else
    return .field ⟨pos, alias?, name, args, dirs⟩ ⟨pos, pos⟩ []

/-- A field is its name, perhaps after an alias, and what follows the name. -/
theorem field_eq (depth : Nat) (selections : Reader SelectionSet) :
    field depth selections = (do
      let pos ← here
      let first ← name
      if ← sees .colon then
        let _ ← punct .colon
        let name ← name
        afterName depth selections pos (some first) name
      else
        afterName depth selections pos none first) := rfl

/-- What comes after a field's name may be nothing, which is seen of the next lexeme. -/
theorem looksAhead_afterName (depth : Nat) {selections : Reader SelectionSet}
    (h : selections.Closed) (pos : Pos) (alias? : Option String) (name : String) :
    (afterName depth selections pos alias? name).LooksAhead := by
  refine (looksAhead_arguments depth).bind fun args => (looksAhead_directives depth).bind
    fun dirs => (looksAhead_sees .braceOpen).bind fun seen => ?_
  split
  · exact (h.map _).looksAhead
  · exact looksAhead_pure _

/-- A field has a name, and looks one lexeme ahead for what comes after it. -/
theorem takes_field (depth : Nat) {selections : Reader SelectionSet}
    (h : selections.Closed) : (field depth selections).Takes := by
  rw [field_eq]
  refine looksAhead_here.bind_takes fun pos => closed_name.takes.bind fun first =>
    (looksAhead_sees .colon).bind fun seen => ?_
  split
  · exact (closed_punct .colon).looksAhead.bind fun _ => closed_name.looksAhead.bind fun name =>
      looksAhead_afterName depth h pos (some first) name
  · exact looksAhead_afterName depth h pos none first

/-- After the dots comes the name of a fragment, a condition or a selection set, told apart by the
next lexeme. -/
theorem looksAhead_afterEllipsis (depth : Nat) {selections : Reader SelectionSet}
    (h : selections.Closed) : (afterEllipsis depth selections).LooksAhead := by
  refine looksAhead_here.bind fun pos => looksAhead_name?.bind fun found => ?_
  cases found with
  | none => exact (looksAhead_directives depth).bind fun dirs => (h.map _).looksAhead
  | some text =>
    change LooksAhead (if text = "on" then _ else _)
    split
    · exact closed_name.looksAhead.bind fun condition =>
        (looksAhead_directives depth).bind fun dirs => (h.map _).looksAhead
    · exact (looksAhead_directives depth).bind fun dirs => looksAhead_pure _

/-- Every selection takes a lexeme if the sets in it are read whatever follows. -/
theorem takes_selection (depth : Nat) {selections : Reader SelectionSet}
    (h : selections.Closed) : (selection depth selections).Takes := by
  refine (looksAhead_sees .ellipsis).bind_takes fun seen => ?_
  split
  · exact (closed_punct .ellipsis).takes.bind fun _ => looksAhead_afterEllipsis depth h
  · exact takes_field depth h

/-- A selection set of any depth is read whatever follows it. -/
theorem closed_selectionSet (depth : Nat) : (selectionSet depth).Closed := by
  induction depth with
  | zero => exact closed_fail
  | succ depth ih => exact (closed_someBetween .braceOpen (takes_selection depth ih)).map _

theorem ends_selectionSet (depth : Nat) : (selectionSet depth).Ends .braceClose := by
  cases depth with
  | zero =>
    intro input x rest h
    cases h
  | succ depth =>
    exact (ends_someBetween .braceOpen
      (takes_selection depth (closed_selectionSet depth)).looksAhead).map _

/-! ## Definitions -/

section Definitions

variable (kind : OperationKind) (pos : Pos)

theorem looksAhead_variables (depth : Nat) : (parenthesized variableDef depth).LooksAhead :=
  looksAhead_parenthesized takes_variableDef depth

theorem closed_operation : (operation kind pos).Closed :=
  looksAhead_name?.bind_closed fun _ => (looksAhead_variables _).bind_closed fun _ =>
    (looksAhead_directives _).bind_closed fun _ => (closed_selectionSet _).map _

theorem ends_operation : (operation kind pos).Ends .braceClose :=
  Ends.bind looksAhead_name? fun _ => Ends.bind (looksAhead_variables _) fun _ =>
    Ends.bind (looksAhead_directives _) fun _ => (ends_selectionSet _).map _

theorem closed_fragment : (fragment pos).Closed :=
  closed_name.looksAhead.bind_closed fun _ => (closed_keyword "on").looksAhead.bind_closed
    fun _ => closed_name.looksAhead.bind_closed fun _ =>
      (looksAhead_directives _).bind_closed fun _ => (closed_selectionSet _).map _

theorem ends_fragment : (fragment pos).Ends .braceClose :=
  Ends.bind closed_name.looksAhead fun _ => Ends.bind (closed_keyword "on").looksAhead fun _ =>
    Ends.bind closed_name.looksAhead fun _ => Ends.bind (looksAhead_directives _) fun _ =>
      (ends_selectionSet _).map _

end Definitions

/-- What follows a keyword that starts a definition. -/
def afterKeyword (pos : Pos) (text : String) : Reader Definition :=
  match operationKind? text with
  | some kind => operation kind pos
  | none => if text = "fragment" then fragment pos else fail

theorem closed_afterKeyword (pos : Pos) (text : String) : (afterKeyword pos text).Closed := by
  rw [afterKeyword]
  split
  · exact closed_operation _ pos
  · split
    · exact closed_fragment pos
    · exact closed_fail

theorem ends_afterKeyword (pos : Pos) (text : String) :
    (afterKeyword pos text).Ends .braceClose := by
  rw [afterKeyword]
  split
  · exact ends_operation _ pos
  · split
    · exact ends_fragment pos
    · intro input x rest h
      cases h

/-- A definition that starts with a name is what follows the name. Only the lexemes that an
error hands back are not the same. -/
theorem definition_name_eq_ok {pos : Pos} {text : String} {input rest : List Lexeme}
    {x : Definition} :
    definition (⟨pos, .name text⟩ :: input) = .ok (x, rest) ↔
      afterKeyword pos text input = .ok (x, rest) := by
  rw [definition, afterKeyword]
  rcases operationKind? text with _ | kind
  · by_cases hfragment : text = "fragment"
    · simp only [hfragment, if_true]
    · simp [hfragment]
  · rfl

/-- Any other definition is a bare selection set. -/
theorem definition_of_not_name {input : List Lexeme}
    (h : ∀ pos text rest, input ≠ ⟨pos, .name text⟩ :: rest) :
    definition input = bareOperation input := by
  rcases input with _ | ⟨⟨pos, token⟩, input⟩
  · rfl
  · cases token with
    | name text => exact absurd rfl (h pos text input)
    | _ => rfl

/-- A definition is read whatever follows it, whichever kind it is of. -/
theorem closed_definition : definition.Closed := by
  intro input x rest h
  by_cases hname : ∃ pos text rest, input = ⟨pos, .name text⟩ :: rest
  · obtain ⟨pos, text, input, rfl⟩ := hname
    obtain ⟨chunk, -, rfl, hreads⟩ := closed_afterKeyword pos text (definition_name_eq_ok.mp h)
    exact ⟨⟨pos, .name text⟩ :: chunk, List.cons_ne_nil _ _, rfl,
      fun next more hmore => definition_name_eq_ok.mpr (hreads next more hmore)⟩
  · have hnot : ∀ pos text rest, input ≠ ⟨pos, .name text⟩ :: rest :=
      fun pos text rest heq => hname ⟨pos, text, rest, heq⟩
    rw [definition_of_not_name hnot] at h
    obtain ⟨chunk, hne, rfl, hreads⟩ := ((closed_selectionSet nestingLimit).map _) h
    refine ⟨chunk, hne, rfl, fun next more hmore => ?_⟩
    -- the first lexeme, by which the rule is chosen, is in the chunk
    rw [definition_of_not_name, bareOperation]
    · exact hreads next more hmore
    · obtain ⟨lexeme, chunk, rfl⟩ := List.exists_cons_of_ne_nil hne
      rintro pos text rest' heq
      rw [List.cons_append, List.cons.injEq] at heq
      exact hnot pos text _ (by rw [heq.1, List.cons_append])

/-- Every definition ends with a closing brace. -/
theorem ends_definition : definition.Ends .braceClose := by
  intro input x rest h
  by_cases hname : ∃ pos text rest, input = ⟨pos, .name text⟩ :: rest
  · obtain ⟨pos, text, input, rfl⟩ := hname
    obtain ⟨front, pos', rfl⟩ := ends_afterKeyword pos text (definition_name_eq_ok.mp h)
    exact ⟨⟨pos, .name text⟩ :: front, pos', rfl⟩
  · rw [definition_of_not_name fun pos text rest heq => hname ⟨pos, text, rest, heq⟩] at h
    exact ((ends_selectionSet nestingLimit).map _) h

/-! ## Documents -/

/-- A document is one definition or more, to the end of the input. -/
theorem document_eq_ok_iff {input rest : List Lexeme} {d : Document} :
    document input = .ok (d, rest) ↔
      input ≠ [] ∧ toEnd definition input = .ok (d.definitions, rest) := by
  by_cases hinput : input = []
  · subst hinput
    constructor
    · -- a definition takes a lexeme, and there is none
      intro h
      obtain ⟨x, middle, hx, -⟩ := bind_eq_ok h
      have := closed_definition.takes.length_lt hx
      simp at this
    · rintro ⟨hne, -⟩
      exact absurd rfl hne
  · rw [toEnd_of_ne_nil closed_definition.takes hinput]
    constructor
    · intro h
      obtain ⟨x, middle, hx, h⟩ := bind_eq_ok h
      obtain ⟨found, rest', hfound, hd⟩ := bind_eq_ok h
      obtain ⟨rfl, rfl⟩ := pure_eq_ok hd
      exact ⟨hinput, by rw [bind_ok hx, bind_ok hfound, pure_apply]⟩
    · rintro ⟨-, h⟩
      obtain ⟨x, middle, hx, h⟩ := bind_eq_ok h
      obtain ⟨found, rest', hfound, hd⟩ := bind_eq_ok h
      obtain ⟨hdefinitions, rfl⟩ := pure_eq_ok hd
      obtain ⟨definitions⟩ := d
      rw [document, bind_ok hx, bind_ok hfound, pure_apply]
      simp only at hdefinitions
      rw [hdefinitions]

/-- A document that was read has a definition. -/
theorem document_definitions_ne_nil {input rest : List Lexeme} {d : Document}
    (h : document input = .ok (d, rest)) : d.definitions ≠ [] := by
  obtain ⟨first, middle, -, h⟩ := bind_eq_ok h
  obtain ⟨others, rest', -, hd⟩ := bind_eq_ok h
  obtain ⟨rfl, -⟩ := pure_eq_ok hd
  exact List.cons_ne_nil _ _

/-- Reading a document leaves nothing. -/
theorem document_rest {input rest : List Lexeme} {d : Document}
    (h : document input = .ok (d, rest)) : rest = [] :=
  (toEnd_append closed_definition (document_eq_ok_iff.mp h).2).1

/-- The lexemes of two documents, one after the other, are those of the document with the
definitions of both. -/
theorem document_append {input more rest rest' : List Lexeme} {d e : Document}
    (h : document input = .ok (d, rest)) (h' : document more = .ok (e, rest')) :
    document (input ++ more) = .ok (⟨d.definitions ++ e.definitions⟩, []) := by
  obtain ⟨hne, hd⟩ := document_eq_ok_iff.mp h
  obtain rfl := document_rest h'
  have happend := (toEnd_append closed_definition hd).2 more
  rw [bind_ok (document_eq_ok_iff.mp h').2, pure_apply] at happend
  exact document_eq_ok_iff.mpr ⟨List.append_ne_nil_of_left_ne_nil hne _, happend⟩

/-- Whatever lexemes come behind those of a document: if all of them together are those of a
document, it starts with the definitions of the first. -/
theorem document_append_prefix {input more rest rest' : List Lexeme} {d e : Document}
    (h : document input = .ok (d, rest)) (h' : document (input ++ more) = .ok (e, rest')) :
    d.definitions <+: e.definitions := by
  have happend := (toEnd_append closed_definition (document_eq_ok_iff.mp h).2).2 more
  rw [(document_eq_ok_iff.mp h').2] at happend
  obtain ⟨others, rest'', -, he⟩ := bind_eq_ok happend.symm
  obtain ⟨he, -⟩ := pure_eq_ok he
  exact ⟨others, he.symm⟩

/-- The last lexeme of a document is a closing brace. -/
theorem document_ends {input rest : List Lexeme} {d : Document}
    (h : document input = .ok (d, rest)) :
    ∃ front pos, input = front ++ [⟨pos, .punct .braceClose⟩] :=
  toEnd_ends closed_definition ends_definition (document_eq_ok_iff.mp h).2
    (document_eq_ok_iff.mp h).1

end Grammar

/-- A text is a document when all of it is lexemes, and these are those of one. -/
theorem Document.ofScan_eq_ok_iff {scan : Scan} {d : Document} :
    Document.ofScan scan = .ok d ↔
      scan.complete = true ∧ Grammar.document scan.lexemes = .ok (d, []) := by
  rw [Document.ofScan]
  rcases h : Grammar.document scan.lexemes with _ | ⟨e, rest⟩
  · rename_i rest
    -- a reader that breaks down comes to no document either
    cases rest with
    | nil =>
      dsimp only
      split <;> simp
    | cons lexeme rest => simp
  · obtain rfl := Grammar.document_rest h
    cases scan.complete <;> simp

end Refetch
