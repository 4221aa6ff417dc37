import Refetch.Proofs.OnePass

/-!
# Relabelling

A relabelling changes what of a document its structure does not depend on: the places of its
nodes and the characters of its quoted texts. With a relabelling that forgets the places, two
documents that differ in nothing else become one (`Document.Alike`); with one that forgets the
texts as well, what is left is a document's outline.

* `Document.relabel_tidy`, `Document.isolate_relabel` — adapting looks at neither
* `Adapter.adaptDocument_relabel` — so a relabelled document is adapted to the same, relabelled
-/

namespace Refetch

/-- A change of places and of quoted texts. -/
structure Relabelling where
  /-- what a place becomes -/
  place : Pos → Pos
  /-- what a quoted text becomes -/
  text : String → String

namespace Relabelling

/-- Forgets places. -/
def unplacing : Relabelling := ⟨fun _ => .first, id⟩

/-- Forgets places and texts. -/
def outlining : Relabelling := ⟨fun _ => .first, fun _ => ""⟩

end Relabelling

/-! ## Relabelled nodes -/

/-- The span with its ends relabelled. -/
def Span.relabel (φ : Relabelling) (span : Span) : Span :=
  ⟨φ.place span.start, φ.place span.stop⟩

mutual

/-- The value with its texts relabelled. -/
def Value.relabel (φ : Relabelling) : Value → Value
  | .string text => .string (φ.text text)
  | .list items => .list (relabelItems φ items)
  | .object members => .object (relabelMembers φ members)
  | .var name => .var name
  | .int n => .int n
  | .float x => .float x
  | .boolean b => .boolean b
  | .null => .null
  | .enum name => .enum name

/-- The values relabelled one by one. -/
def relabelItems (φ : Relabelling) : List Value → List Value
  | [] => []
  | value :: rest => value.relabel φ :: relabelItems φ rest

/-- The members or arguments with their values relabelled. -/
def relabelMembers (φ : Relabelling) : List (String × Value) → List (String × Value)
  | [] => []
  | (key, value) :: rest => (key, value.relabel φ) :: relabelMembers φ rest

end

/-- The directive relabelled. -/
def Directive.relabel (φ : Relabelling) (dir : Directive) : Directive :=
  ⟨φ.place dir.pos, dir.name, relabelMembers φ dir.args⟩

/-- The declaration relabelled. -/
def VariableDef.relabel (φ : Relabelling) (var : VariableDef) : VariableDef :=
  ⟨φ.place var.pos, var.name, var.type, var.default?.map (·.relabel φ)⟩

/-- The head of a field relabelled. -/
def FieldHead.relabel (φ : Relabelling) (head : FieldHead) : FieldHead :=
  ⟨φ.place head.pos, head.alias?, head.name, relabelMembers φ head.args,
    head.dirs.map (·.relabel φ)⟩

mutual

/-- The selection relabelled with all that is below it. -/
def Selection.relabel (φ : Relabelling) : Selection → Selection
  | .field head span items =>
    .field (head.relabel φ) (span.relabel φ) (relabelSelections φ items)
  | .spread pos name dirs => .spread (φ.place pos) name (dirs.map (·.relabel φ))
  | .inline pos on? dirs span items =>
    .inline (φ.place pos) on? (dirs.map (·.relabel φ)) (span.relabel φ)
      (relabelSelections φ items)

/-- The selections relabelled one by one. -/
def relabelSelections (φ : Relabelling) : List Selection → List Selection
  | [] => []
  | item :: rest => item.relabel φ :: relabelSelections φ rest

end

/-- The set relabelled. -/
def SelectionSet.relabel (φ : Relabelling) (set : SelectionSet) : SelectionSet :=
  ⟨set.span.relabel φ, relabelSelections φ set.items⟩

/-- The head of a definition relabelled. -/
def Head.relabel (φ : Relabelling) : Head → Head
  | .bare => .bare
  | .operation kind pos name? vars dirs =>
    .operation kind (φ.place pos) name? (vars.map (·.relabel φ)) (dirs.map (·.relabel φ))
  | .fragment pos name on dirs =>
    .fragment (φ.place pos) name on (dirs.map (·.relabel φ))

/-- The definition relabelled. -/
def Definition.relabel (φ : Relabelling) (definition : Definition) : Definition :=
  ⟨definition.head.relabel φ, definition.body.relabel φ⟩

namespace Document

/-- The document relabelled. -/
def relabel (φ : Relabelling) (d : Document) : Document :=
  ⟨d.definitions.map (·.relabel φ)⟩

/-- The document with every place forgotten. -/
def unplaced (d : Document) : Document := d.relabel .unplacing

/-- The document with every place and every quoted text forgotten. -/
def outline (d : Document) : Document := d.relabel .outlining

/-- Are two documents equal up to places and spans? -/
def Alike (d e : Document) : Prop := d.unplaced = e.unplaced

end Document

section Lists

variable (φ : Relabelling)

theorem relabelItems_eq_map (items : List Value) :
    relabelItems φ items = items.map (·.relabel φ) := by
  induction items with
  | nil => rw [relabelItems, List.map_nil]
  | cons value rest ih => rw [relabelItems, List.map_cons, ih]

theorem relabelMembers_eq_map (members : List (String × Value)) :
    relabelMembers φ members = members.map (Prod.map id (·.relabel φ)) := by
  induction members with
  | nil => rw [relabelMembers, List.map_nil]
  | cons member rest ih =>
    obtain ⟨key, value⟩ := member
    rw [relabelMembers, List.map_cons, ih]
    rfl

theorem relabelSelections_eq_map (items : List Selection) :
    relabelSelections φ items = items.map (·.relabel φ) := by
  induction items with
  | nil => rw [relabelSelections, List.map_nil]
  | cons item rest ih => rw [relabelSelections, List.map_cons, ih]

end Lists

/-! ## Adapting relabelled documents -/

section Adapting

variable (φ : Relabelling) (rule : DerivedRule) (p : TypePrefix)

/-- Whether a field is derived does not depend on places and quoted texts. -/
@[simp] theorem isDerivedField_relabel (item : Selection) :
    (item.relabel φ).isDerivedField rule = item.isDerivedField rule := by
  cases item <;> rw [Selection.relabel] <;> rfl

mutual

/-- A selection may be relabelled before it is tidied or after: places and quoted texts decide about
nothing. -/
theorem Selection.relabel_tidy (item : Selection) :
    (item.relabel φ).tidy rule p = (item.tidy rule p).relabel φ := by
  cases item with
  | field head span items =>
    rw [Selection.relabel, Selection.tidy, Selection.tidy, Selection.relabel,
      relabelSelections_tidy]
  | spread pos name dirs =>
    rw [Selection.relabel, Selection.tidy, Selection.tidy, Selection.relabel]
  | inline pos on? dirs span items =>
    rw [Selection.relabel, Selection.tidy, Selection.tidy, Selection.relabel,
      relabelSelections_tidy]

theorem relabelSelections_tidy (items : List Selection) :
    tidySelections rule p (relabelSelections φ items) =
      relabelSelections φ (tidySelections rule p items) := by
  cases items with
  | nil => rw [tidySelections, relabelSelections, tidySelections]
  | cons item rest =>
    rw [relabelSelections, tidySelections, tidySelections, isDerivedField_relabel,
      relabelSelections_tidy, Selection.relabel_tidy]
    split
    · rfl
    · rw [relabelSelections]

end

theorem Head.relabel_tidy (head : Head) :
    (head.relabel φ).tidy p = (head.tidy p).relabel φ := by
  cases head with
  | bare => rfl
  | operation kind pos name? vars dirs =>
    simp only [Head.relabel, Head.tidy, List.map_map]
    congr 1
  | fragment pos name on dirs => rfl

/-- A document may be relabelled before it is tidied or after. -/
theorem Document.relabel_tidy (d : Document) :
    (d.relabel φ).tidy rule p = (d.tidy rule p).relabel φ := by
  simp only [Document.relabel, Document.tidy, List.map_map]
  congr 1
  refine List.map_congr_left fun definition _ => ?_
  simp only [Function.comp, Definition.relabel, Definition.tidy, SelectionSet.relabel,
    Head.relabel_tidy, relabelSelections_tidy]

/-- The first field of a name stays first, and what is below it is relabelled. -/
theorem firstFieldNamed?_relabel (name : String) (items : List Selection) :
    firstFieldNamed? name (relabelSelections φ items) =
      (firstFieldNamed? name items).map (·.relabel φ) := by
  induction items with
  | nil => rw [relabelSelections]; rfl
  | cons item rest ih =>
    rw [relabelSelections]
    cases item with
    | field head span items =>
      rw [Selection.relabel, firstFieldNamed?, firstFieldNamed?, ih]
      -- a field keeps its name, by which it is found
      by_cases h : head.name = name
      · simp [h, FieldHead.relabel, SelectionSet.relabel]
      · simp [h, FieldHead.relabel]
    | spread pos name dirs => simp [Selection.relabel, firstFieldNamed?, ih]
    | inline pos on? dirs span items => simp [Selection.relabel, firstFieldNamed?, ih]

/-- A root field is found or missing whatever the places and quoted texts, with the same error. -/
theorem Document.isolate_relabel (d : Document) (root : String) :
    (d.relabel φ).isolate root = (d.isolate root).map (·.relabel φ) := by
  by_cases hroot : root = ""
  · subst hroot
    rw [isolate_empty_root, isolate_empty_root]
    rfl
  · obtain ⟨_ | ⟨first, others⟩⟩ := d
    · rw [Document.relabel, List.map_nil, isolate_nil hroot]
      rfl
    · rw [Document.relabel, List.map_cons, isolate_cons hroot, isolate_cons hroot,
        Definition.relabel, SelectionSet.relabel, firstFieldNamed?_relabel]
      rcases firstFieldNamed? root first.body.items with _ | ⟨span, _ | ⟨item, rest⟩⟩
      · rfl
      · rw [Option.map_some, SelectionSet.relabel, relabelSelections]
        rfl
      · rw [Option.map_some, SelectionSet.relabel, relabelSelections]
        simp [Except.map, Document.relabel, Definition.relabel, SelectionSet.relabel,
          relabelSelections]

/-- The outcome with its document relabelled. -/
def Outcome.relabel : Outcome → Outcome
  | .adapted d => .adapted (d.relabel φ)
  | .skipped reason => .skipped reason

/-- A document may be relabelled before it is adapted or after, also where it is skipped. -/
theorem Adapter.adaptDocument_relabel (a : Adapter) (d : Document) :
    a.adaptDocument (d.relabel φ) = (a.adaptDocument d).relabel φ := by
  rw [adaptDocument_eq, adaptDocument_eq, Document.isolate_relabel]
  cases d.isolate a.rootField with
  | error reason => rfl
  | ok narrowed =>
    simp only [Except.map, Outcome.relabel, Document.relabel_tidy]

/-- No diagnostic has a place or a quoted text in it. -/
@[simp] theorem Outcome.diagnostics_relabel (outcome : Outcome) :
    (outcome.relabel φ).diagnostics = outcome.diagnostics := by
  cases outcome <;> rfl

end Adapting

end Refetch
