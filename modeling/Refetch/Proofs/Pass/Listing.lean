import Refetch.Pass.Visit
import Refetch.Proofs.Pass.Walking

/-!
# What a walk visits

A document is a tree of nodes, each with a kind, and the names and selections in them are what a
pass is asked about (`Document.part`). The questions of a walk list this tree in pre-order, less
what is below selections that do not stay, each under the kinds of the nodes around it (`Listed`).
Which selections stay is for the pass to say, and its answers may depend on those before
(`Pass.Answered`); the listing with these answers is the only one.

* `Listed.unique` — two listings with the answers of one pass are the same
* `Pass.walk_visits` — the questions of a walk are the listing with the pass's answers, and in the
  end nothing is left entered
-/

namespace Refetch

/-! ## The tree of a document -/

/-- A part of a document, as far as a pass is asked about it. -/
inductive Part where
  /-- a name of the node that it is in -/
  | name (text : String)
  /-- a selection of the set that it is in -/
  | selection (item : Selection)
  /-- a node with its parts in order -/
  | node (kind : NodeKind) (parts : List Part)

/-- A type is its name, in a node for each wrapper and one of its own. -/
def TypeRef.part : TypeRef → Part
  | .named text => .node .namedType [.name text]
  | .list inner => .node .listType [inner.part]
  | .nonNull inner => .node .nonNullType [inner.part]

/-- A type condition is a name in a node of its own. -/
def conditionPart (on : String) : Part := .node .namedType [.name on]

/-- A set of selections. -/
def setPart (items : List Selection) : Part := .node .selectionSet (items.map .selection)

/-- The node that a selection is. Aliases, arguments and directives are no part of it. -/
def Selection.part : Selection → Part
  | .field head _ items => .node .field [.name head.name, setPart items]
  | .spread _ text _ => .node .fragmentSpread [.name text]
  | .inline _ on? _ _ items =>
    .node .inlineFragment (on?.toList.map conditionPart ++ [setPart items])

/-- A variable's declaration is its name and its type; its default is no part of it. -/
def VariableDef.part (var : VariableDef) : Part :=
  .node .variableDefinition [.name var.name, var.type.part]

/-- What stands before the selections of a definition. -/
def Head.parts : Head → List Part
  | .bare => []
  | .operation _ _ text? vars _ => text?.toList.map .name ++ vars.map (·.part)
  | .fragment _ text on _ => [.name text, conditionPart on]

/-- The node that a definition is. -/
def Definition.part (definition : Definition) : Part :=
  let parts := definition.head.parts ++ [setPart definition.body.items]
  match definition.head with
  | .fragment .. => .node .fragmentDefinition parts
  | _ => .node .operationDefinition parts

/-- The node that a document is. -/
def Document.part (d : Document) : Part := .node .document (d.definitions.map (·.part))

/-! ## Listings -/

/-- The visits list some parts of the node at a path in pre-order. -/
inductive Listed : Path → List Part → List Visit → Prop where
  /-- no parts, no visits -/
  | nil {path : Path} : Listed path [] []
  /-- a name is visited -/
  | name {path : Path} {text renamed : String} {rest : List Part} {visits : List Visit}
      (hrest : Listed path rest visits) :
      Listed path (.name text :: rest) (.name text path renamed :: visits)
  /-- a selection that stays is visited, then the node that it is -/
  | kept {path : Path} {item : Selection} {rest : List Part} {visits : List Visit}
      (hrest : Listed path (item.part :: rest) visits) :
      Listed path (.selection item :: rest) (.selection item path true :: visits)
  /-- a selection that does not stay is visited, and nothing below it -/
  | dropped {path : Path} {item : Selection} {rest : List Part} {visits : List Visit}
      (hrest : Listed path rest visits) :
      Listed path (.selection item :: rest) (.selection item path false :: visits)
  /-- the parts of a node are visited with its kind on the path -/
  | node {path : Path} {kind : NodeKind} {parts rest : List Part} {below visits : List Visit}
      (hbelow : Listed (kind :: path) parts below) (hrest : Listed path rest visits) :
      Listed path (.node kind parts :: rest) (below ++ visits)

/-- Listings one after the other list the parts of both. -/
theorem Listed.append {path : Path} {parts others : List Part} {visits more : List Visit}
    (h : Listed path parts visits) (hmore : Listed path others more) :
    Listed path (parts ++ others) (visits ++ more) := by
  induction h with
  | nil => exact hmore
  | name _ ih => exact .name (ih hmore)
  | kept _ ih => exact .kept (ih hmore)
  | dropped _ ih => exact .dropped (ih hmore)
  | node hbelow _ _ ih =>
    rw [List.append_assoc]
    exact .node hbelow (ih hmore)

/-! ## Answers -/

variable {σ : Type}

namespace Pass

/-- Asked these questions one after the other, from the first state on, the pass gives the answers
recorded with them and ends in the second state. -/
inductive Answered (p : Pass (StateM σ)) : σ → List Visit → σ → Prop where
  /-- nothing is asked -/
  | nil {s : σ} : Answered p s [] s
  /-- it is asked whether a selection stays -/
  | selection {s next t : σ} {item : Selection} {path : Path} {kept : Bool} {visits : List Visit}
      (hkeep : (p.keep path item).run s = (kept, next)) (hrest : Answered p next visits t) :
      Answered p s (.selection item path kept :: visits) t
  /-- it is asked what a name becomes -/
  | name {s next t : σ} {text renamed : String} {path : Path} {visits : List Visit}
      (hrename : (p.rename path text).run s = (renamed, next))
      (hrest : Answered p next visits t) : Answered p s (.name text path renamed :: visits) t

variable {p : Pass (StateM σ)} {s t u : σ} {visits more : List Visit}

/-- Visits one after the other are answered when the later ones are from the state the earlier ones
leave. -/
theorem answered_append :
    p.Answered s (visits ++ more) u ↔ ∃ t, p.Answered s visits t ∧ p.Answered t more u := by
  constructor
  · intro h
    induction visits generalizing s with
    | nil => exact ⟨s, .nil, h⟩
    | cons visit visits ih =>
      cases h with
      | selection hkeep hrest =>
        obtain ⟨t, hvisits, hmore⟩ := ih hrest
        exact ⟨t, .selection hkeep hvisits, hmore⟩
      | name hrename hrest =>
        obtain ⟨t, hvisits, hmore⟩ := ih hrest
        exact ⟨t, .name hrename hvisits, hmore⟩
  · rintro ⟨t, hvisits, hmore⟩
    induction hvisits with
    | nil => exact hmore
    | selection hkeep _ ih => exact .selection hkeep (ih hmore)
    | name hrename _ ih => exact .name hrename (ih hmore)

/-- To the first of two rows of questions that start alike, a pass gives the same answer and goes
on from the same state. -/
theorem Answered.selection_unique {item : Selection} {path : Path} {kept kept' : Bool}
    (h : p.Answered s (.selection item path kept :: visits) t)
    (h' : p.Answered s (.selection item path kept' :: more) u) :
    kept = kept' ∧ ∃ next, p.Answered next visits t ∧ p.Answered next more u := by
  cases h with
  | selection hkeep hrest =>
    cases h' with
    | selection hkeep' hrest' =>
      obtain ⟨rfl, rfl⟩ := Prod.mk.inj (hkeep.symm.trans hkeep')
      exact ⟨rfl, _, hrest, hrest'⟩

/-- The state a name is asked about in determines its new name. -/
theorem Answered.name_unique {text renamed renamed' : String} {path : Path}
    (h : p.Answered s (.name text path renamed :: visits) t)
    (h' : p.Answered s (.name text path renamed' :: more) u) :
    renamed = renamed' ∧ ∃ next, p.Answered next visits t ∧ p.Answered next more u := by
  cases h with
  | name hrename hrest =>
    cases h' with
    | name hrename' hrest' =>
      obtain ⟨rfl, rfl⟩ := Prod.mk.inj (hrename.symm.trans hrename')
      exact ⟨rfl, _, hrest, hrest'⟩

/-- The state after some questions is the only one. -/
theorem Answered.state_unique (h : p.Answered s visits t) (h' : p.Answered s visits u) : t = u := by
  induction h with
  | nil =>
    cases h'
    rfl
  | selection hkeep hrest ih =>
    cases h' with
    | selection hkeep' hrest' =>
      obtain ⟨-, rfl⟩ := Prod.mk.inj (hkeep.symm.trans hkeep')
      exact ih hrest'
  | name hrename hrest ih =>
    cases h' with
    | name hrename' hrest' =>
      obtain ⟨-, rfl⟩ := Prod.mk.inj (hrename.symm.trans hrename')
      exact ih hrest'

end Pass

/-- Two listings of the same parts, each with anything behind it and both with the answers of one
pass from one state, are the same. -/
theorem Listed.unique_append {p : Pass (StateM σ)} {path : Path} {parts : List Part}
    {visits others behind further : List Visit} {s t u : σ} (h : Listed path parts visits)
    (h' : Listed path parts others) (hp : p.Answered s (visits ++ behind) t)
    (hp' : p.Answered s (others ++ further) u) : visits = others := by
  induction h generalizing others behind further s t u with
  | nil =>
    cases h'
    rfl
  | name _ ih =>
    cases h' with
    | name hrest' =>
      obtain ⟨rfl, next, hp, hp'⟩ := hp.name_unique hp'
      rw [ih hrest' hp hp']
  | kept _ ih =>
    cases h' with
    | kept hrest' =>
      obtain ⟨-, next, hp, hp'⟩ := hp.selection_unique hp'
      rw [ih hrest' hp hp']
    | dropped _ => exact absurd (hp.selection_unique hp').1 (by decide)
  | dropped _ ih =>
    cases h' with
    | kept _ => exact absurd (hp.selection_unique hp').1 (by decide)
    | dropped hrest' =>
      obtain ⟨-, next, hp, hp'⟩ := hp.selection_unique hp'
      rw [ih hrest' hp hp']
  | node _ _ ihbelow ih =>
    cases h' with
    | node hbelow' hrest' =>
      rw [List.append_assoc] at hp hp'
      obtain rfl := ihbelow hbelow' hp hp'
      -- what is behind the node goes on from the one state that the pass has then
      obtain ⟨t, hbelow, hp⟩ := Pass.answered_append.mp hp
      obtain ⟨t', hbelow', hp'⟩ := Pass.answered_append.mp hp'
      obtain rfl := hbelow.state_unique hbelow'
      rw [ih hrest' hp hp']

/-- Parts and the state they are visited in determine the visits. -/
theorem Listed.unique {p : Pass (StateM σ)} {path : Path} {parts : List Part}
    {visits others : List Visit} {s t u : σ} (h : Listed path parts visits)
    (h' : Listed path parts others) (hp : p.Answered s visits t) (hp' : p.Answered s others u) :
    visits = others := by
  rw [← List.append_nil visits] at hp
  rw [← List.append_nil others] at hp'
  exact h.unique_append h' hp hp'

/-! ## Visits of a pass -/

namespace Pass

/-- The step visits these parts: it does what `result` does, and what it records lists them with
the answers of the pass. -/
def VisitsParts {α : Type} (p : Pass (StateM σ)) (path : Path) (parts : List Part)
    (step : StateT σ (Recorded Visit) α) (result : StateM σ α) : Prop :=
  ∀ s, (step.run s).value = result.run s ∧ Listed path parts (step.run s).events ∧
    p.Answered s (step.run s).events (result.run s).2

section Steps

variable {α β : Type} {p : Pass (StateM σ)} {path : Path} {parts others : List Part}
  {step : StateT σ (Recorded Visit) α} {result : StateM σ α}

theorem visitsParts_pure (a : α) : p.VisitsParts path [] (pure a) (pure a) :=
  fun _ => ⟨rfl, .nil, .nil⟩

/-- Steps one after the other visit the parts of both. -/
theorem VisitsParts.bind {next : α → StateT σ (Recorded Visit) β} {further : α → StateM σ β}
    (h : p.VisitsParts path parts step result)
    (hnext : ∀ a, p.VisitsParts path others (next a) (further a)) :
    p.VisitsParts path (parts ++ others) (step >>= next) (result >>= further) := by
  intro s
  obtain ⟨hvalue, hlisted, hanswered⟩ := h s
  obtain ⟨hvalue', hlisted', hanswered'⟩ := hnext (result.run s).1 (result.run s).2
  rw [StateT.run_bind, StateT.run_bind, Recorded.value_bind, Recorded.events_bind, hvalue]
  exact ⟨hvalue', hlisted.append hlisted', answered_append.mpr ⟨_, hanswered, hanswered'⟩⟩

/-- Nothing more is visited where a result is only made into another. -/
theorem VisitsParts.returning (h : p.VisitsParts path parts step result) (f : α → β) :
    p.VisitsParts path parts (do return f (← step)) (do return f (← result)) := by
  have hbind := h.bind fun a => visitsParts_pure (f a)
  rwa [List.append_nil] at hbind

theorem VisitsParts.map (h : p.VisitsParts path parts step result) (f : α → β) :
    p.VisitsParts path parts (f <$> step) (f <$> result) := by
  rw [map_eq_pure_bind, map_eq_pure_bind]
  exact h.returning f

/-- The parts of a node are visited with its kind on the path. -/
theorem VisitsParts.node {kind : NodeKind} (h : p.VisitsParts (kind :: path) parts step result) :
    p.VisitsParts path [.node kind parts] step result := by
  intro s
  obtain ⟨hvalue, hlisted, hanswered⟩ := h s
  have hnode := Listed.node hlisted .nil
  rw [List.append_nil] at hnode
  exact ⟨hvalue, hnode, hanswered⟩

theorem VisitsParts.mapM {f : α → StateT σ (Recorded Visit) β} {g : α → StateM σ β}
    {part : α → Part} (h : ∀ a, p.VisitsParts path [part a] (f a) (g a)) (as : List α) :
    p.VisitsParts path (as.map part) (as.mapM f) (as.mapM g) := by
  induction as with
  | nil => exact visitsParts_pure []
  | cons a rest ih =>
    rw [List.mapM_cons, List.mapM_cons]
    exact (h a).bind fun b => ih.returning (b :: ·)

/-- The answer to whether a selection stays decides what is visited after it. -/
theorem VisitsParts.choice {item : Selection} {kept dropped : StateT σ (Recorded Visit) α}
    {keptResult droppedResult : StateM σ α}
    (hkept : p.VisitsParts path (item.part :: parts) kept keptResult)
    (hdropped : p.VisitsParts path parts dropped droppedResult) :
    p.VisitsParts path (.selection item :: parts)
      (do if ← p.watched.keep path item then kept else dropped)
      (do if ← p.keep path item then keptResult else droppedResult) := by
  intro s
  rcases hkeep : (p.keep path item).run s with ⟨answer, next⟩
  rw [StateT.run_bind, StateT.run_bind, run_keep_watched, hkeep, Recorded.value_bind,
    Recorded.events_bind, Recorded.events_note, Recorded.value_note]
  cases answer with
  | false =>
    obtain ⟨hvalue, hlisted, hanswered⟩ := hdropped next
    exact ⟨hvalue, .dropped hlisted, .selection hkeep hanswered⟩
  | true =>
    obtain ⟨hvalue, hlisted, hanswered⟩ := hkept next
    exact ⟨hvalue, .kept hlisted, .selection hkeep hanswered⟩

end Steps

/-! ### The nodes of a document -/

variable (p : Pass (StateM σ)) (path : Path)

/-- To ask for a new name is the visit of that name. -/
theorem visitsParts_rename (text : String) :
    p.VisitsParts path [.name text] (p.watched.rename path text) (p.rename path text) := by
  intro s
  rw [run_rename_watched, Recorded.value_note, Recorded.events_note]
  exact ⟨rfl, .name .nil, .name rfl .nil⟩

theorem visitsParts_name? (text? : Option String) :
    p.VisitsParts path (text?.toList.map .name) (p.watched.name? path text?)
      (p.name? path text?) := by
  cases text? with
  | none => exact visitsParts_pure none
  | some text => exact (visitsParts_rename p path text).map some

/-- In a type its innermost name is visited, below the types around it. -/
theorem visitsParts_type (type : TypeRef) :
    p.VisitsParts path [type.part] (p.watched.type path type) (p.type path type) := by
  induction type generalizing path with
  | named text => exact ((visitsParts_rename p _ text).map _).node
  | list inner ih => exact ((ih _).map _).node
  | nonNull inner ih => exact ((ih _).map _).node

theorem visitsParts_condition (on : String) :
    p.VisitsParts path [conditionPart on] (p.watched.condition path on) (p.condition path on) :=
  (visitsParts_rename p _ on).node

theorem visitsParts_condition? (on? : Option String) :
    p.VisitsParts path (on?.toList.map conditionPart) (p.watched.condition? path on?)
      (p.condition? path on?) := by
  cases on? with
  | none => exact visitsParts_pure none
  | some on => exact (visitsParts_condition p path on).map some

mutual

/-- A selection visits its name and what is below it, in the order it is written. -/
theorem visitsParts_selection (path : Path) (item : Selection) :
    p.VisitsParts path [item.part] (p.watched.selection path item) (p.selection path item) := by
  cases item with
  | field head span items =>
    rw [selection, selection]
    refine .node (.bind (visitsParts_rename p _ head.name) fun text => ?_)
    exact .returning (.node (visitsParts_selections _ items)) _
  | spread pos text dirs =>
    rw [selection, selection]
    exact .node (.returning (visitsParts_rename p _ text) _)
  | inline pos on? dirs span items =>
    rw [selection, selection]
    refine .node (.bind (visitsParts_condition? p _ on?) fun on? => ?_)
    exact .returning (.node (visitsParts_selections _ items)) _

/-- In a set each selection is asked about, and one that goes takes what is below it along
unvisited. -/
theorem visitsParts_selections (path : Path) (items : List Selection) :
    p.VisitsParts path (items.map .selection) (p.watched.selections path items)
      (p.selections path items) := by
  cases items with
  | nil =>
    rw [selections, selections]
    exact visitsParts_pure []
  | cons item rest =>
    rw [selections, selections]
    refine .choice ?_ (visitsParts_selections path rest)
    exact .bind (visitsParts_selection path item) fun item =>
      .returning (visitsParts_selections path rest) _

end

theorem visitsParts_body (set : SelectionSet) :
    p.VisitsParts path [setPart set.items] (p.watched.body path set) (p.body path set) :=
  .node (.map (visitsParts_selections p _ set.items) _)

theorem visitsParts_variableDef (var : VariableDef) :
    p.VisitsParts path [var.part] (p.watched.variableDef path var) (p.variableDef path var) := by
  refine .node (.bind (visitsParts_rename p _ var.name) fun text => ?_)
  exact .returning (visitsParts_type p _ var.type) _

/-- In the head of a definition its name comes first, then the variables or the type condition. -/
theorem visitsParts_head (head : Head) :
    p.VisitsParts path head.parts (p.watched.head path head) (p.head path head) := by
  cases head with
  | bare => exact visitsParts_pure _
  | operation kind pos text? vars dirs =>
    refine .bind (visitsParts_name? p path text?) fun text? => ?_
    exact .returning (.mapM (visitsParts_variableDef p path) vars) _
  | fragment pos text on dirs =>
    refine .bind (visitsParts_rename p path text) fun text => ?_
    exact .returning (visitsParts_condition p path on) _

/-- A definition visits its head, then its selections. -/
theorem visitsParts_definition (definition : Definition) :
    p.VisitsParts [.document] [definition.part] (p.watched.definition definition)
      (p.definition definition) := by
  have hinside : p.VisitsParts definition.head.path
      (definition.head.parts ++ [setPart definition.body.items])
      (p.watched.definition definition) (p.definition definition) :=
    .bind (visitsParts_head p _ definition.head) fun head =>
      .returning (visitsParts_body p _ definition.body) _
  obtain ⟨head, body⟩ := definition
  cases head <;> exact hinside.node

/-- A document visits its definitions in order, from an empty path. -/
theorem visitsParts_document (d : Document) :
    p.VisitsParts [] [d.part] (p.watched.document d) (p.document d) :=
  .node (.map (.mapM (visitsParts_definition p) d.definitions) _)

/-- Walked through a document, a pass is asked what the listing of the document asks, under the
paths there and with the answers that the pass gives in this order: no more, no less, and in no
other order. It makes of the document what it makes without a stack, and in the end nothing is
left entered. -/
theorem walk_visits (p : Pass (StateM σ)) (s : σ) (d : Document) :
    (∀ visits, (p.walk s d).events = visits ↔
      Listed [] [d.part] visits ∧ ∃ t, p.Answered s visits t) ∧
    ∃ rebuilt t, (p.document d).run s = (rebuilt, t) ∧ (p.walk s d).value = ((rebuilt, []), t) := by
  have hwalk : p.walk s d = (fun r => ((r.1, []), r.2)) <$> (p.watched.document d).run s := by
    rw [walk, Walk.restores_document, StateT.run_map]
  obtain ⟨hvalue, hlisted, hanswered⟩ := visitsParts_document p d s
  rw [hwalk, Recorded.events_map, Recorded.value_map, hvalue]
  refine ⟨fun visits => ⟨?_, ?_⟩, _, _, rfl, rfl⟩
  · rintro rfl
    exact ⟨hlisted, _, hanswered⟩
  · rintro ⟨hlisted', t, hanswered'⟩
    exact hlisted.unique hlisted' hanswered hanswered'

/-- In a fragment that spreads another one: its name, its type condition, whether the spread stays,
and the name of what is spread. -/
example :
    let spread : Selection := .spread .first "Media" []
    let fragment : Definition := ⟨.fragment .first "Hero" "Image" [], ⟨⟨.first, .first⟩, [spread]⟩⟩
    identity.visits ⟨[fragment]⟩ =
      [.name "Hero" [.fragmentDefinition, .document] "Hero",
        .name "Image" [.namedType, .fragmentDefinition, .document] "Image",
        .selection spread [.selectionSet, .fragmentDefinition, .document] true,
        .name "Media" [.fragmentSpread, .selectionSet, .fragmentDefinition, .document]
          "Media"] := rfl

end Pass

end Refetch
