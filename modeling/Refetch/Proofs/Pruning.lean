import Mathlib.Data.List.Forall2
import Refetch.Proofs.OnePass
import Refetch.Proofs.Document.Gathering

/-!
# Pruning

What is left of a document when derived fields are left out of it: a selection that is a derived
field goes with all that is below it, and every other one is still there over what is left below
it. It is the node that was there before, with its place and span, arguments and directives. Only
types may go by other names.

Pruning is a relation between the old and the new. It says of each node of the new document which
one of the old document it was.

* `Document.prunes_tidy` — tidying prunes
* `SelectionsPrune.gather_sublist` — pruned selections hold nothing that was not there before
-/

namespace Refetch

/-! ## What is left of each kind of node -/

/-- The same declaration, perhaps with a type of another name. -/
def VariableDef.Retypes (old new : VariableDef) : Prop := new = { old with type := new.type }

/-- The same head of a definition, perhaps with types of other names. -/
inductive Head.Retypes : Head → Head → Prop where
  /-- nothing says nothing -/
  | bare : Retypes .bare .bare
  /-- an operation with its variables in order -/
  | operation (kind : OperationKind) (pos : Pos) (name? : Option String) (dirs : List Directive)
      {vars vars' : List VariableDef} (hvars : List.Forall₂ VariableDef.Retypes vars vars') :
      Retypes (.operation kind pos name? vars dirs) (.operation kind pos name? vars' dirs)
  /-- a fragment, perhaps on a type of another name -/
  | fragment (pos : Pos) (name : String) (dirs : List Directive) {on on' : String} :
      Retypes (.fragment pos name on dirs) (.fragment pos name on' dirs)

mutual

/-- What is left of a selection that stays. -/
inductive Selection.Prunes (rule : DerivedRule) : Selection → Selection → Prop where
  /-- a field, over what is left below it -/
  | field (head : FieldHead) (span : Span) {items left : List Selection}
      (hbelow : SelectionsPrune rule items left) :
      Selection.Prunes rule (.field head span items) (.field head span left)
  /-- a spread as it is -/
  | spread (pos : Pos) (name : String) (dirs : List Directive) :
      Selection.Prunes rule (.spread pos name dirs) (.spread pos name dirs)
  /-- a fragment in place, perhaps on a type of another name, over what is left below it -/
  | inline (pos : Pos) (dirs : List Directive) (span : Span) {on? on?' : Option String}
      {items left : List Selection} (hon : on?'.isSome = on?.isSome)
      (hbelow : SelectionsPrune rule items left) :
      Selection.Prunes rule (.inline pos on? dirs span items) (.inline pos on?' dirs span left)

/-- What is left of some selections. -/
inductive SelectionsPrune (rule : DerivedRule) : List Selection → List Selection → Prop where
  /-- nothing of nothing -/
  | nil : SelectionsPrune rule [] []
  /-- a derived field goes -/
  | drop {item : Selection} {rest left : List Selection}
      (hderived : item.isDerivedField rule = true)
      (hrest : SelectionsPrune rule rest left) : SelectionsPrune rule (item :: rest) left
  /-- any other selection stays -/
  | keep {item item' : Selection} {rest left : List Selection}
      (hlasting : item.isDerivedField rule = false) (hitem : item.Prunes rule item')
      (hrest : SelectionsPrune rule rest left) :
      SelectionsPrune rule (item :: rest) (item' :: left)

end

/-- What is left of a definition: its head, its braces and what is left between them. -/
structure Definition.Prunes (rule : DerivedRule) (old new : Definition) : Prop where
  /-- the head is the same but for names of types -/
  head : old.head.Retypes new.head
  /-- the braces are the same -/
  span : new.body.span = old.body.span
  /-- the selections are what is left of the old ones -/
  items : SelectionsPrune rule old.body.items new.body.items

/-- What is left of a document, definition by definition. -/
def Document.Prunes (rule : DerivedRule) (old new : Document) : Prop :=
  List.Forall₂ (Definition.Prunes rule) old.definitions new.definitions

/-- What does not depend on types is the same of declarations with types of other names. -/
theorem VariableDef.map_eq_of_retypes {β : Type} {f : VariableDef → β}
    (hf : ∀ (var : VariableDef) (type : TypeRef), f { var with type } = f var)
    {vars vars' : List VariableDef} (h : List.Forall₂ VariableDef.Retypes vars vars') :
    vars'.map f = vars.map f := by
  induction h with
  | nil => rfl
  | cons hvar _ ih =>
    rw [VariableDef.Retypes] at hvar
    rw [List.map_cons, List.map_cons, ih, hvar, hf]

/-! ## Tidying prunes -/

section Tidy

variable (rule : DerivedRule) (p : TypePrefix)

/-- Tidying changes nothing in a head but the names of types. -/
theorem Head.retypes_tidy (head : Head) : head.Retypes (head.tidy p) := by
  cases head with
  | bare => exact .bare
  | operation kind pos name? vars dirs =>
    apply Head.Retypes.operation
    simp [List.forall₂_map_right_iff, List.forall₂_same, VariableDef.Retypes, VariableDef.tidy]
  | fragment pos name on dirs => exact .fragment pos name dirs

mutual

/-- What tidying leaves of a selection is the selection pruned. -/
theorem Selection.prunes_tidy (item : Selection) : item.Prunes rule (item.tidy rule p) := by
  cases item with
  | field head span items =>
    rw [Selection.tidy]
    exact .field head span (selectionsPrune_tidy items)
  | spread pos name dirs =>
    rw [Selection.tidy]
    exact .spread pos name dirs
  | inline pos on? dirs span items =>
    rw [Selection.tidy]
    exact .inline pos dirs span Option.isSome_map (selectionsPrune_tidy items)

theorem selectionsPrune_tidy (items : List Selection) :
    SelectionsPrune rule items (tidySelections rule p items) := by
  cases items with
  | nil =>
    rw [tidySelections]
    exact .nil
  | cons item rest =>
    rw [tidySelections]
    cases hderived : item.isDerivedField rule with
    | true => exact .drop hderived (selectionsPrune_tidy rest)
    | false => exact .keep hderived (Selection.prunes_tidy item) (selectionsPrune_tidy rest)

end

/-- What tidying leaves of a document is the document pruned. -/
theorem Document.prunes_tidy (d : Document) : d.Prunes rule (d.tidy rule p) := by
  simp only [Document.Prunes, Document.tidy, List.forall₂_map_right_iff, List.forall₂_same]
  exact fun definition _ =>
    ⟨definition.head.retypes_tidy p, rfl, selectionsPrune_tidy rule p definition.body.items⟩

end Tidy

/-! ## What pruned selections hold -/

section Gather

variable {α : Type} {rule : DerivedRule} {own : Selection → List α}

mutual

/-- If pruning leaves alone what a selection gives itself, a pruned selection gathers some of what
it gathered, in order. -/
theorem Selection.Prunes.gather_sublist
    (hown : ∀ item left : Selection, item.Prunes rule left → own left = own item)
    {item left : Selection} (h : item.Prunes rule left) :
    (left.gather own).Sublist (item.gather own) := by
  rw [Selection.gather_eq, Selection.gather_eq, hown item left h]
  apply (List.Sublist.refl (own item)).append
  cases h with
  | field head span hbelow => exact hbelow.gather_sublist hown
  | spread pos name dirs => exact List.Sublist.refl _
  | inline pos dirs span hon hbelow => exact hbelow.gather_sublist hown

/-- Pruned selections hold nothing that was not there before, if what a selection holds itself
does not change. -/
theorem SelectionsPrune.gather_sublist
    (hown : ∀ item left : Selection, item.Prunes rule left → own left = own item)
    {items left : List Selection} (h : SelectionsPrune rule items left) :
    (selectionsGather own left).Sublist (selectionsGather own items) := by
  cases h with
  | nil => exact List.Sublist.refl _
  | drop hderived hrest =>
    rw [selectionsGather_cons]
    exact (hrest.gather_sublist hown).trans (List.sublist_append_right _ _)
  | keep hlasting hitem hrest =>
    rw [selectionsGather_cons, selectionsGather_cons]
    exact (hitem.gather_sublist hown).append (hrest.gather_sublist hown)

end

/-- What the field that is looked for holds, with all below it, is held by the selections that it
is among. -/
theorem IsFirstFieldNamed.exists_gather_sublist {name : String} {items : List Selection}
    {set : SelectionSet} (h : IsFirstFieldNamed name items set) (own : Selection → List α) :
    ∃ head, (own (.field head set.span set.items) ++ selectionsGather own set.items).Sublist
      (selectionsGather own items) := by
  obtain ⟨before, head, after, rfl, -, -⟩ := h
  refine ⟨head, ?_⟩
  have hfield := Selection.gather_eq own (.field head set.span set.items)
  rw [Selection.items] at hfield
  rw [selectionsGather_append, selectionsGather_cons, ← hfield]
  exact (List.sublist_append_left _ _).trans (List.sublist_append_right _ _)

end Gather

end Refetch
