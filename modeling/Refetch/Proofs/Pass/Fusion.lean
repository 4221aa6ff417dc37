import Refetch.Pass.Basic

/-!
# Fusion of passes

Passes without effects are functions on documents, and two of them in a row are one: the
fused pass keeps what the first keeps and the second keeps of what the first made of it, and
renames by both in turn. This rests on a pass leaving the kinds of nodes as they are, so that
the second one sees every node under the same path as the first.

* `Pass.run_identity` — the pass that decides to keep everything changes nothing
* `Pass.run_fuse` — the fused pass does what the two do one after the other
-/

namespace Refetch

namespace Pass

/-! ## Equations

What a pass without effects makes of each kind of node. -/

section Equations

variable (p : Pass Id) (path : Path)

/-- A named type is renamed as a named type below where it stands. -/
@[simp] theorem type_named (name : String) :
    p.type path (.named name) = TypeRef.named (p.rename (.namedType :: path) name) := rfl

/-- A list type is rebuilt around what the pass makes of its element type. -/
@[simp] theorem type_list (inner : TypeRef) :
    p.type path (.list inner) = TypeRef.list (p.type (.listType :: path) inner) := rfl

/-- A non-null type is rebuilt around what the pass makes of the type in it. -/
@[simp] theorem type_nonNull (inner : TypeRef) :
    p.type path (.nonNull inner) = TypeRef.nonNull (p.type (.nonNullType :: path) inner) := rfl

@[simp] theorem condition?_none : p.condition? path none = (none : Option String) := rfl

@[simp] theorem condition?_some (name : String) :
    p.condition? path (some name) = some (p.rename (.namedType :: path) name) := rfl

@[simp] theorem name?_none : p.name? path none = (none : Option String) := rfl

@[simp] theorem name?_some (name : String) :
    p.name? path (some name) = some (p.rename path name) := rfl

/-- Of a field the pass changes its name and the selections below it, and neither alias nor
arguments. -/
@[simp] theorem selection_field (head : FieldHead) (span : Span) (items : List Selection) :
    p.selection path (.field head span items) =
      Selection.field { head with name := p.rename (.field :: path) head.name } span
        (p.selections (.selectionSet :: .field :: path) items) := rfl

/-- Of a spread the pass changes the name only. -/
@[simp] theorem selection_spread (pos : Pos) (name : String) (dirs : List Directive) :
    p.selection path (.spread pos name dirs) =
      Selection.spread pos (p.rename (.fragmentSpread :: path) name) dirs := rfl

/-- Of an inline fragment the pass changes its type condition and the selections below it. -/
@[simp] theorem selection_inline (pos : Pos) (on? : Option String) (dirs : List Directive)
    (span : Span) (items : List Selection) :
    p.selection path (.inline pos on? dirs span items) =
      Selection.inline pos (p.condition? (.inlineFragment :: path) on?) dirs span
        (p.selections (.selectionSet :: .inlineFragment :: path) items) := rfl

@[simp] theorem selections_nil : p.selections path [] = ([] : List Selection) := rfl

/-- A selection is asked about before it is rebuilt, and one that is not kept leaves nothing
behind. -/
theorem selections_cons (item : Selection) (rest : List Selection) :
    p.selections path (item :: rest) =
      bif p.keep path item then p.selection path item :: p.selections path rest
      else p.selections path rest := by
  rw [Pass.selections]
  change (if (show Bool from p.keep path item) = true then _ else _) = _
  cases p.keep path item <;> rfl

/-- Of a variable the pass changes its name and its type, and not its default. -/
theorem variableDef_eq (var : VariableDef) :
    p.variableDef path var =
      { var with
        name := p.rename (.variableDefinition :: path) var.name
        type := p.type (.variableDefinition :: path) var.type } := rfl

@[simp] theorem head_bare : p.head path .bare = Head.bare := rfl

/-- Of an operation's head the pass changes the name and the variables. -/
theorem head_operation (kind : OperationKind) (pos : Pos) (name? : Option String)
    (vars : List VariableDef) (dirs : List Directive) :
    p.head path (.operation kind pos name? vars dirs) =
      Head.operation kind pos (p.name? path name?) (vars.map (p.variableDef path)) dirs := by
  have h : vars.mapM (p.variableDef path) = pure (vars.map (p.variableDef path)) :=
    List.mapM_pure
  rw [Pass.head, h]
  rfl

/-- Of a fragment's head the pass changes the name and the type condition. -/
@[simp] theorem head_fragment (pos : Pos) (name on : String) (dirs : List Directive) :
    p.head path (.fragment pos name on dirs) =
      Head.fragment pos (p.rename path name) (p.rename (.namedType :: path) on) dirs := rfl

/-- A definition is its head and its selections rebuilt in the place it had. -/
theorem definition_eq (definition : Definition) :
    p.definition definition =
      ⟨p.head definition.head.path definition.head, definition.body.span,
        p.selections (.selectionSet :: definition.head.path) definition.body.items⟩ := rfl

/-- A pass without effects makes each definition over by itself: none is dropped. -/
theorem run_eq (document : Document) :
    p.run document = ⟨document.definitions.map p.definition⟩ := by
  have h : document.definitions.mapM p.definition = pure (document.definitions.map p.definition) :=
    List.mapM_pure
  rw [Pass.run, Pass.document, h]
  rfl

end Equations

/-! ## The pass that keeps everything -/

section Identity

/-- The pass that keeps everything leaves types as they are. -/
theorem type_identity (path : Path) (type : TypeRef) :
    (identity : Pass Id).type path type = type := by
  induction type generalizing path with
  | named name => rfl
  | list inner ih => rw [type_list, ih]
  | nonNull inner ih => rw [type_nonNull, ih]

theorem condition?_identity (path : Path) (on? : Option String) :
    (identity : Pass Id).condition? path on? = on? := by
  cases on? <;> rfl

theorem name?_identity (path : Path) (name? : Option String) :
    (identity : Pass Id).name? path name? = name? := by
  cases name? <;> rfl

mutual

/-- It leaves a selection with all below it as it is. -/
theorem selection_identity (path : Path) (item : Selection) :
    (identity : Pass Id).selection path item = item := by
  cases item with
  | field head span items =>
    rw [selection_field, selections_identity]
    rfl
  | spread pos name dirs => rfl
  | inline pos on? dirs span items =>
    rw [selection_inline, selections_identity, condition?_identity]

/-- It drops none of the selections of a set. -/
theorem selections_identity (path : Path) (items : List Selection) :
    (identity : Pass Id).selections path items = items := by
  cases items with
  | nil => rfl
  | cons item rest =>
    have hkeep : (identity : Pass Id).keep path item = true := rfl
    rw [selections_cons, hkeep, cond_true, selection_identity, selections_identity]

end

/-- It leaves the head of a definition as it is. -/
theorem head_identity (path : Path) (head : Head) :
    (identity : Pass Id).head path head = head := by
  cases head with
  | bare => rfl
  | operation kind pos name? vars dirs =>
    rw [head_operation, name?_identity]
    congr 1
    refine List.map_id'' (fun var => ?_) vars
    rw [variableDef_eq, type_identity]
    rfl
  | fragment pos name on dirs => rfl

/-- A document that is rebuilt as it is stays the same, places and all. -/
theorem run_identity (document : Document) : (identity : Pass Id).run document = document := by
  rw [run_eq]
  congr 1
  refine List.map_id'' (fun definition => ?_) document.definitions
  rw [definition_eq, head_identity, selections_identity]

end Identity

/-! ## The fused pass -/

/-- The pass that decides as `f` and then `g` do. -/
def fuse (f g : Pass Id) : Pass Id where
  keep path item := f.keep path item && g.keep path (f.selection path item)
  rename path name := g.rename path (f.rename path name)

variable (f g : Pass Id)

/-- On types the fused pass does what the two do in a row. -/
theorem type_fuse (path : Path) (type : TypeRef) :
    (fuse f g).type path type = g.type path (f.type path type) := by
  induction type generalizing path with
  | named name => rfl
  | list inner ih => rw [type_list, type_list, type_list, ih]
  | nonNull inner ih => rw [type_nonNull, type_nonNull, type_nonNull, ih]

theorem condition?_fuse (path : Path) (on? : Option String) :
    (fuse f g).condition? path on? = g.condition? path (f.condition? path on?) := by
  cases on? <;> rfl

theorem name?_fuse (path : Path) (name? : Option String) :
    (fuse f g).name? path name? = g.name? path (f.name? path name?) := by
  cases name? <;> rfl

mutual

/-- Fusion below one selection. -/
theorem selection_fuse (path : Path) (item : Selection) :
    (fuse f g).selection path item = g.selection path (f.selection path item) := by
  cases item with
  | field head span items =>
    rw [selection_field, selection_field, selection_field, selections_fuse]
    rfl
  | spread pos name dirs => rfl
  | inline pos on? dirs span items =>
    rw [selection_inline, selection_inline, selection_inline, selections_fuse, condition?_fuse]

/-- Fusion over a set: what the first pass drops the second never sees. -/
theorem selections_fuse (path : Path) (items : List Selection) :
    (fuse f g).selections path items = g.selections path (f.selections path items) := by
  cases items with
  | nil => rfl
  | cons item rest =>
    have hkeep : (fuse f g).keep path item =
        (f.keep path item && g.keep path (f.selection path item)) := rfl
    rw [selections_cons, selections_cons, selection_fuse, selections_fuse, hkeep]
    -- the second pass decides about an item as the first one has left it
    cases hf : f.keep path item with
    | false => rfl
    | true =>
      rw [Bool.true_and, cond_true, selections_cons]

end

theorem variableDef_fuse (path : Path) (var : VariableDef) :
    (fuse f g).variableDef path var = g.variableDef path (f.variableDef path var) := by
  rw [variableDef_eq, variableDef_eq, variableDef_eq, type_fuse]
  rfl

theorem head_fuse (path : Path) (head : Head) :
    (fuse f g).head path head = g.head path (f.head path head) := by
  cases head with
  | bare => rfl
  | operation kind pos name? vars dirs =>
    rw [head_operation, head_operation, head_operation, name?_fuse, List.map_map]
    congr 1
    exact List.map_congr_left fun var _ => variableDef_fuse f g path var
  | fragment pos name on dirs => rfl

/-- A pass leaves a definition's path as it is. -/
@[simp] theorem path_head (path : Path) (head : Head) : (f.head path head).path = head.path := by
  cases head with
  | bare => rfl
  | operation kind pos name? vars dirs =>
    rw [head_operation]
    rfl
  | fragment pos name on dirs => rfl

/-- On definitions the fused pass does what the two do in a row: the second starts from the path the
first started from. -/
theorem definition_fuse (definition : Definition) :
    (fuse f g).definition definition = g.definition (f.definition definition) := by
  rw [definition_eq, definition_eq, definition_eq, path_head, head_fuse, selections_fuse]

/-- **Fusion.** The fused pass makes of a document what the second pass makes of what the first one
made of it. -/
theorem run_fuse (document : Document) :
    (fuse f g).run document = g.run (f.run document) := by
  rw [run_eq, run_eq, run_eq, List.map_map]
  congr 1
  exact List.map_congr_left fun definition _ => definition_fuse f g definition

end Pass

end Refetch
