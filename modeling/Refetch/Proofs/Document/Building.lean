import Refetch.Proofs.Document.Naming
import Refetch.Proofs.Document.Rules

/-!
# What the grammar builds

What can be said of everything that is read: it is built by the rules of the grammar, from names
that were found in the text. So a property of selections that every rule passes on holds of all
selections of a document.

* `Reader.YieldsFrom` — every value read from lexemes of a kind has a property
* `Grammar.Built` — a property that the rules for selections pass on
* `Document.built_of_parse` — what is read has it, and its types go by names
-/

namespace Refetch

namespace Reader

variable {α β : Type} {N : Lexeme → Prop} {r : Reader α} {f : α → Reader β} {P : α → Prop}
  {Q : β → Prop}

/-! ## Properties of what is read -/

/-- From lexemes that all have `N` the reader gives values that have `P`, and leaves such
lexemes. -/
def YieldsFrom (N : Lexeme → Prop) (r : Reader α) (P : α → Prop) : Prop :=
  ∀ ⦃input x rest⦄, (∀ lexeme ∈ input, N lexeme) → r input = .ok (x, rest) →
    P x ∧ ∀ lexeme ∈ rest, N lexeme

namespace YieldsFrom

protected theorem pure {x : α} (h : P x) : YieldsFrom N (pure x) P := by
  intro input y rest hinput hy
  obtain ⟨rfl, rfl⟩ := pure_eq_ok hy
  exact ⟨h, hinput⟩

theorem fail : YieldsFrom N (Reader.fail : Reader α) P := by
  intro input y rest hinput hy
  cases hy

/-- What is known of the first reader's value may be used for what the second reads. -/
protected theorem bind (hr : YieldsFrom N r P) (hf : ∀ x, P x → YieldsFrom N (f x) Q) :
    YieldsFrom N (r >>= f) Q := by
  intro input y rest hinput h
  obtain ⟨x, middle, hx, hy⟩ := bind_eq_ok h
  obtain ⟨hP, hmiddle⟩ := hr hinput hx
  exact hf x hP hmiddle hy

/-- What is left of an input has no other lexemes. -/
theorem any (hr : r.LooksAhead) : YieldsFrom N r fun _ => True := by
  intro input x rest hinput hx
  obtain ⟨chunk, rfl, -⟩ := hr hx
  exact ⟨True.intro, (List.forall_mem_append.mp hinput).2⟩

/-- A reader whose value does not matter to the property of the next one's. -/
theorem bind_any (hr : r.LooksAhead) (hf : ∀ x, YieldsFrom N (f x) Q) :
    YieldsFrom N (r >>= f) Q :=
  (any hr).bind fun x _ => hf x

/-- Each of the items up to a mark satisfies what one item does, whatever the bound. -/
theorem upToClose {close : Punctuator} (hr : YieldsFrom N r P) (bound : List Lexeme) :
    YieldsFrom N (Reader.upToClose close r bound) fun found => ∀ x ∈ found.1, P x := by
  have hpunct := (closed_punct close).looksAhead
  induction bound with
  | nil =>
    exact bind_any hpunct fun stop => .pure fun x hx => absurd hx List.not_mem_nil
  | cons lexeme bound ih =>
    refine bind_any (looksAhead_sees close) fun seen => ?_
    split
    · exact bind_any hpunct fun stop => .pure fun x hx => absurd hx List.not_mem_nil
    · exact hr.bind fun x hx => ih.bind fun found hfound =>
        .pure (List.forall_mem_cons.mpr ⟨hx, hfound⟩)

/-- There is at least one item between the marks, and each satisfies what one item does. -/
theorem someBetween {opening close : Punctuator} (hr : YieldsFrom N r P) :
    YieldsFrom N (Reader.someBetween opening close r) fun found =>
      found.2 ≠ [] ∧ ∀ x ∈ found.2, P x := by
  have hitems : YieldsFrom N (itemsUntil close r) fun found => ∀ x ∈ found.1, P x :=
    fun input _ _ hinput h => upToClose hr input hinput h
  exact bind_any (closed_punct opening).looksAhead fun start => hr.bind fun first hfirst =>
    hitems.bind fun found hfound =>
      .pure ⟨List.cons_ne_nil _ _, List.forall_mem_cons.mpr ⟨hfirst, hfound⟩⟩

theorem toEndUpTo (hr : YieldsFrom N r P) (bound : List Lexeme) :
    YieldsFrom N (Reader.toEndUpTo r bound) fun found => ∀ x ∈ found, P x := by
  induction bound with
  | nil => exact .pure fun x hx => absurd hx List.not_mem_nil
  | cons lexeme bound ih =>
    have hpeek : YieldsFrom N peek fun _ => True := by
      intro input next rest hinput hnext
      obtain ⟨-, rfl⟩ := Prod.mk.inj (Except.ok.inj hnext)
      exact ⟨True.intro, hinput⟩
    refine hpeek.bind fun next _ => ?_
    cases next with
    | none => exact .pure fun x hx => absurd hx List.not_mem_nil
    | some token =>
      exact hr.bind fun x hx => ih.bind fun found hfound =>
        .pure (List.forall_mem_cons.mpr ⟨hx, hfound⟩)

theorem toEnd (hr : YieldsFrom N r P) :
    YieldsFrom N (Reader.toEnd r) fun found => ∀ x ∈ found, P x :=
  fun input _ _ hinput h => toEndUpTo hr input hinput h

end YieldsFrom

end Reader

/-! ## Names of types -/

/-- The name of a type, without what is around it. -/
def TypeRef.name : TypeRef → String
  | .named name => name
  | .list inner => inner.name
  | .nonNull inner => inner.name

/-- The names of the types in what a definition says before its selections. -/
def Head.typeNames : Head → List String
  | .bare => []
  | .operation _ _ _ vars _ => vars.map (·.type.name)
  | .fragment _ _ on _ => [on]

namespace Grammar

open Reader

theorem name_yieldsFrom : YieldsFrom Lexeme.Named name fun text => isName text = true := by
  intro input text rest hinput h
  obtain ⟨pos, rfl⟩ := name_eq_ok h
  rw [List.forall_mem_cons] at hinput
  exact hinput

theorem withBang_yieldsFrom {type : TypeRef} (h : isName type.name = true) :
    YieldsFrom Lexeme.Named (withBang type) fun type => isName type.name = true := by
  refine YieldsFrom.bind_any (looksAhead_sees .bang) fun seen => ?_
  split
  · exact YieldsFrom.bind_any (closed_punct .bang).looksAhead fun _ => .pure h
  · exact .pure h

/-- The name of a type is written as a name, whatever is around it. -/
theorem type_yieldsFrom (depth : Nat) :
    YieldsFrom Lexeme.Named (type depth) fun type => isName type.name = true := by
  induction depth with
  | zero => exact name_yieldsFrom.bind fun name hname => withBang_yieldsFrom hname
  | succ depth ih =>
    refine YieldsFrom.bind_any (looksAhead_sees .bracketOpen) fun seen => ?_
    split
    · exact YieldsFrom.bind_any (closed_punct .bracketOpen).looksAhead fun _ =>
        ih.bind fun inner hinner =>
          YieldsFrom.bind_any (closed_punct .bracketClose).looksAhead fun _ =>
            withBang_yieldsFrom hinner
    · exact name_yieldsFrom.bind fun name hname => withBang_yieldsFrom hname

theorem variableDef_yieldsFrom (depth : Nat) :
    YieldsFrom Lexeme.Named (variableDef depth) fun var => isName var.type.name = true := by
  refine YieldsFrom.bind_any (closed_punct .dollar).looksAhead fun pos =>
    YieldsFrom.bind_any closed_name.looksAhead fun name =>
      YieldsFrom.bind_any (closed_punct .colon).looksAhead fun _ =>
        (type_yieldsFrom depth).bind fun type htype =>
          YieldsFrom.bind_any (looksAhead_sees .equals) fun seen => ?_
  split
  · exact YieldsFrom.bind_any (closed_punct .equals).looksAhead fun _ =>
      YieldsFrom.bind_any (closed_value true depth).looksAhead fun _ => .pure htype
  · exact .pure htype

/-- The types of variables have names that are written as names. -/
theorem variables_yieldsFrom (depth : Nat) :
    YieldsFrom Lexeme.Named (parenthesized variableDef depth) fun vars =>
      ∀ name ∈ vars.map (·.type.name), isName name = true := by
  refine YieldsFrom.bind_any (looksAhead_sees .parenOpen) fun seen => ?_
  split
  · cases depth with
    | zero => exact YieldsFrom.fail
    | succ depth =>
      exact (variableDef_yieldsFrom depth).someBetween.bind fun found hfound =>
        .pure (List.forall_mem_map.mpr hfound.2)
  · exact .pure fun name hname => absurd hname List.not_mem_nil

/-! ## Selections -/

/-- A property of selections that every rule for selections passes on. A set in braces holds a
selection at least, and a type condition is a name. -/
structure Built (S : Selection → Prop) : Prop where
  /-- a field without selections has it -/
  leaf : ∀ head span, S (.field head span [])
  /-- a field whose selections have it has it -/
  field : ∀ head span items, items ≠ [] → (∀ item ∈ items, S item) → S (.field head span items)
  /-- the inclusion of a fragment has it -/
  spread : ∀ pos name dirs, S (.spread pos name dirs)
  /-- a fragment in place whose selections have it has it -/
  inline : ∀ pos on? dirs span items, (∀ name ∈ on?, isName name = true) → items ≠ [] →
    (∀ item ∈ items, S item) → S (.inline pos on? dirs span items)

/-- The set holds a selection, and its selections have the property. -/
def AllOf (S : Selection → Prop) (set : SelectionSet) : Prop :=
  set.items ≠ [] ∧ ∀ item ∈ set.items, S item

section Selections

variable {S : Selection → Prop} (hS : Built S) (depth : Nat) {selections : Reader SelectionSet}
  (h : YieldsFrom Lexeme.Named selections (AllOf S))

include hS h in
/-- If the reader for the sets below gives what it should, a field is as a selection should be. -/
theorem afterName_yieldsFrom (pos : Pos) (alias? : Option String) (name : String) :
    YieldsFrom Lexeme.Named (afterName depth selections pos alias? name) S := by
  refine YieldsFrom.bind_any (looksAhead_arguments depth) fun args =>
    YieldsFrom.bind_any (looksAhead_directives depth) fun dirs =>
      YieldsFrom.bind_any (looksAhead_sees .braceOpen) fun seen => ?_
  split
  · exact h.bind fun set hset => .pure (hS.field _ _ _ hset.1 hset.2)
  · exact .pure (hS.leaf _ _)

include hS h in
theorem field_yieldsFrom : YieldsFrom Lexeme.Named (field depth selections) S := by
  rw [field_eq]
  refine YieldsFrom.bind_any looksAhead_here fun pos =>
    YieldsFrom.bind_any closed_name.looksAhead fun first =>
      YieldsFrom.bind_any (looksAhead_sees .colon) fun seen => ?_
  split
  · exact YieldsFrom.bind_any (closed_punct .colon).looksAhead fun _ =>
      YieldsFrom.bind_any closed_name.looksAhead fun name =>
        afterName_yieldsFrom hS depth h pos (some first) name
  · exact afterName_yieldsFrom hS depth h pos none first

include hS h in
theorem afterEllipsis_yieldsFrom : YieldsFrom Lexeme.Named (afterEllipsis depth selections) S := by
  have hdirs := looksAhead_directives depth
  refine YieldsFrom.bind_any looksAhead_here fun pos =>
    YieldsFrom.bind_any looksAhead_name? fun found => ?_
  cases found with
  | none =>
    exact YieldsFrom.bind_any hdirs fun dirs => h.bind fun set hset =>
      .pure (hS.inline _ _ _ _ _ (by simp) hset.1 hset.2)
  | some text =>
    change YieldsFrom _ (if text = "on" then _ else _) _
    split
    · exact name_yieldsFrom.bind fun condition hcondition =>
        YieldsFrom.bind_any hdirs fun dirs => h.bind fun set hset =>
          .pure (hS.inline _ _ _ _ _ (by simpa using hcondition) hset.1 hset.2)
    · exact YieldsFrom.bind_any hdirs fun dirs => .pure (hS.spread _ _ _)

include hS h in
theorem selection_yieldsFrom : YieldsFrom Lexeme.Named (selection depth selections) S := by
  refine YieldsFrom.bind_any (looksAhead_sees .ellipsis) fun seen => ?_
  split
  · exact YieldsFrom.bind_any (closed_punct .ellipsis).looksAhead fun _ =>
      afterEllipsis_yieldsFrom hS depth h
  · exact field_yieldsFrom hS depth h

include hS in
/-- The property of selections holds of every selection of a set, to any depth. -/
theorem selectionSet_yieldsFrom :
    YieldsFrom Lexeme.Named (selectionSet depth) (AllOf S) := by
  induction depth with
  | zero => exact YieldsFrom.fail
  | succ depth ih =>
    exact (selection_yieldsFrom hS depth ih).someBetween.bind fun found hfound => .pure hfound

/-! ## Definitions -/

/-- The types before the selections go by names, and the selections have the property. -/
def DefinitionOf (S : Selection → Prop) (definition : Definition) : Prop :=
  (∀ name ∈ definition.head.typeNames, isName name = true) ∧ AllOf S definition.body

include hS in
theorem body_yieldsFrom {head : Head} (h : ∀ name ∈ head.typeNames, isName name = true) :
    YieldsFrom Lexeme.Named (do return ⟨head, ← selectionSet nestingLimit⟩) (DefinitionOf S) :=
  (selectionSet_yieldsFrom hS nestingLimit).bind fun _ hset => .pure ⟨h, hset⟩

include hS in
theorem operation_yieldsFrom (kind : OperationKind) (pos : Pos) :
    YieldsFrom Lexeme.Named (operation kind pos) (DefinitionOf S) :=
  YieldsFrom.bind_any looksAhead_name? fun _ =>
    (variables_yieldsFrom nestingLimit).bind fun _ hvars =>
      YieldsFrom.bind_any (looksAhead_directives nestingLimit) fun _ => body_yieldsFrom hS hvars

include hS in
theorem fragment_yieldsFrom (pos : Pos) :
    YieldsFrom Lexeme.Named (fragment pos) (DefinitionOf S) :=
  YieldsFrom.bind_any closed_name.looksAhead fun name =>
    YieldsFrom.bind_any (closed_keyword "on").looksAhead fun _ =>
      name_yieldsFrom.bind fun condition hcondition =>
        YieldsFrom.bind_any (looksAhead_directives nestingLimit) fun dirs =>
          body_yieldsFrom hS (by simpa [Head.typeNames] using hcondition)

include hS in
/-- A definition of any kind has well-written names for its types, and a set of selections with the
property. -/
theorem definition_yieldsFrom : YieldsFrom Lexeme.Named definition (DefinitionOf S) := by
  intro input x rest hinput h
  by_cases hname : ∃ pos text rest, input = ⟨pos, .name text⟩ :: rest
  · obtain ⟨pos, text, input, rfl⟩ := hname
    have hkeyword : YieldsFrom Lexeme.Named (afterKeyword pos text) (DefinitionOf S) := by
      rw [afterKeyword]
      split
      · exact operation_yieldsFrom hS _ pos
      · split
        · exact fragment_yieldsFrom hS pos
        · exact YieldsFrom.fail
    exact hkeyword (List.forall_mem_cons.mp hinput).2 (definition_name_eq_ok.mp h)
  · rw [definition_of_not_name fun pos text rest heq => hname ⟨pos, text, rest, heq⟩] at h
    exact body_yieldsFrom hS (fun name hmem => absurd hmem List.not_mem_nil) hinput h

end Selections

end Grammar

/-- All selections of a document that is read have a property that the rules pass on, every set in
braces holds one, and the types before them go by names. -/
theorem Document.built_of_parse {S : Selection → Prop} (hS : Grammar.Built S) {text : String}
    {d : Document} (h : Document.parse text = .ok d) :
    ∀ definition ∈ d.definitions, Grammar.DefinitionOf S definition := by
  obtain ⟨-, hd⟩ := Document.ofScan_eq_ok_iff.mp h
  exact ((Grammar.definition_yieldsFrom hS).toEnd (Scan.named text.toList)
    (Grammar.document_eq_ok_iff.mp hd).2).1

end Refetch
