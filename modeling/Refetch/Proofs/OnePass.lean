import Refetch.Adapter
import Refetch.Proofs.Isolation
import Refetch.Proofs.Pass.Fusion

/-!
# Adapting in one pass

Adapting a document is defined in three steps: narrow, strip, normalize. Here stands what the
three come to together, said once for each kind of node and without paths or hooks: derived
fields are left out with all that is below them, named types lose the prefix, and everything
else is copied.

* `Document.normalize_strip` — stripping and normalizing are tidying
* `Adapter.adaptDocument_iff` — when adapting skips a document, with which reason, and what it
  makes of one that it does not skip
-/

namespace Refetch

/-! ## Tidying -/

/-- Is the selection a derived field? -/
def Selection.isDerivedField (rule : DerivedRule) : Selection → Bool
  | .field head _ _ => rule.isDerived head.name
  | _ => false

/-- The type without the prefix on its name, under any number of wrappers. -/
def TypeRef.tidy (p : TypePrefix) : TypeRef → TypeRef
  | .named name => .named (p.normalize name)
  | .list inner => .list (inner.tidy p)
  | .nonNull inner => .nonNull (inner.tidy p)

mutual

/-- The selection with everything below it tidied. -/
def Selection.tidy (rule : DerivedRule) (p : TypePrefix) : Selection → Selection
  | .field head span items => .field head span (tidySelections rule p items)
  | .spread pos name dirs => .spread pos name dirs
  | .inline pos on? dirs span items =>
    .inline pos (on?.map p.normalize) dirs span (tidySelections rule p items)

/-- The selections without the derived fields among them, the others tidied. -/
def tidySelections (rule : DerivedRule) (p : TypePrefix) : List Selection → List Selection
  | [] => []
  | item :: rest =>
    if item.isDerivedField rule then tidySelections rule p rest
    else item.tidy rule p :: tidySelections rule p rest

end

/-- Tidying selections tidies those that are not derived fields. -/
theorem tidySelections_eq_map {rule : DerivedRule} {p : TypePrefix} {items : List Selection} :
    tidySelections rule p items =
      (items.filter (!·.isDerivedField rule)).map (·.tidy rule p) := by
  induction items with
  | nil => rw [tidySelections, List.filter_nil, List.map_nil]
  | cons item rest ih =>
    rw [tidySelections, ih, List.filter_cons]
    cases item.isDerivedField rule <;> rfl

/-- The declaration with its type tidied. -/
def VariableDef.tidy (p : TypePrefix) (var : VariableDef) : VariableDef :=
  { var with type := var.type.tidy p }

/-- The head of a definition with its variables' types, or its type condition, tidied. -/
def Head.tidy (p : TypePrefix) : Head → Head
  | .bare => .bare
  | .operation kind pos name? vars dirs => .operation kind pos name? (vars.map (·.tidy p)) dirs
  | .fragment pos name on dirs => .fragment pos name (p.normalize on) dirs

/-- The definition tidied, head and selections. -/
def Definition.tidy (rule : DerivedRule) (p : TypePrefix) (definition : Definition) :
    Definition :=
  ⟨definition.head.tidy p, definition.body.span, tidySelections rule p definition.body.items⟩

/-- The document with each of its definitions tidied. -/
def Document.tidy (rule : DerivedRule) (p : TypePrefix) (d : Document) : Document :=
  ⟨d.definitions.map (·.tidy rule p)⟩

/-! ## Stripping and normalizing are tidying -/

section Tidy

variable (rule : DerivedRule) (p : TypePrefix)

theorem DerivedRule.retains_eq (item : Selection) :
    rule.retains item = !item.isDerivedField rule := by
  cases item <;> rfl

/-- The two passes as one. -/
def tidying : Pass Id := Pass.fuse rule.stripping p.normalizing

@[simp] theorem keep_tidying (path : Path) (item : Selection) :
    (tidying rule p).keep path item = !item.isDerivedField rule :=
  (Bool.and_true _).trans (rule.retains_eq item)

@[simp] theorem rename_tidying_namedType (path : Path) (name : String) :
    (tidying rule p).rename (.namedType :: path) name = p.normalize name := rfl

theorem type_tidying (path : Path) (type : TypeRef) :
    (tidying rule p).type path type = type.tidy p := by
  induction type generalizing path with
  | named name => rw [Pass.type_named, rename_tidying_namedType, TypeRef.tidy]
  | list inner ih => rw [Pass.type_list, ih, TypeRef.tidy]
  | nonNull inner ih => rw [Pass.type_nonNull, ih, TypeRef.tidy]

theorem condition?_tidying (path : Path) (on? : Option String) :
    (tidying rule p).condition? path on? = on?.map p.normalize := by
  cases on? with
  | none => rw [Pass.condition?_none, Option.map_none]
  | some name => rw [Pass.condition?_some, rename_tidying_namedType, Option.map_some]

/-- The name of an operation is not a type's, so it is left alone. -/
theorem name?_tidying (path : Path) (name? : Option String) :
    (tidying rule p).name? (.operationDefinition :: path) name? = name? := by
  cases name? with
  | none => rw [Pass.name?_none]
  | some name => rw [Pass.name?_some]; rfl

mutual

/-- The pass tidies selections. -/
theorem selection_tidying (path : Path) (item : Selection) :
    (tidying rule p).selection path item = item.tidy rule p := by
  cases item with
  | field head span items =>
    rw [Pass.selection_field, selections_tidying, Selection.tidy]
    rfl
  | spread pos name dirs => rw [Pass.selection_spread, Selection.tidy]; rfl
  | inline pos on? dirs span items =>
    rw [Pass.selection_inline, selections_tidying, condition?_tidying, Selection.tidy]

theorem selections_tidying (path : Path) (items : List Selection) :
    (tidying rule p).selections path items = tidySelections rule p items := by
  cases items with
  | nil => rw [Pass.selections_nil, tidySelections]
  | cons item rest =>
    rw [Pass.selections_cons, keep_tidying, selection_tidying, selections_tidying,
      tidySelections]
    cases item.isDerivedField rule <;> rfl

end

theorem head_tidying (head : Head) : (tidying rule p).head head.path head = head.tidy p := by
  cases head with
  | bare => rw [Pass.head_bare, Head.tidy]
  | operation kind pos name? vars dirs =>
    have hpath : (Head.operation kind pos name? vars dirs).path =
        [.operationDefinition, .document] := rfl
    rw [hpath, Pass.head_operation, name?_tidying, Head.tidy]
    congr 1
    refine List.map_congr_left fun var _ => ?_
    rw [Pass.variableDef_eq, type_tidying]
    rfl
  | fragment pos name on dirs =>
    rw [Pass.head_fragment, rename_tidying_namedType, Head.tidy]
    rfl

/-- The pass tidies documents. -/
theorem run_tidying (d : Document) : (tidying rule p).run d = d.tidy rule p := by
  rw [Pass.run_eq, Document.tidy]
  congr 1
  refine List.map_congr_left fun definition _ => ?_
  rw [Pass.definition_eq, head_tidying, selections_tidying, Definition.tidy]

/-- A document stripped and then normalized is the document tidied. -/
theorem Document.normalize_strip (d : Document) :
    (d.strip rule).normalize p = d.tidy rule p := by
  rw [← run_tidying, tidying, Pass.run_fuse]
  rfl

end Tidy

/-! ## Adapting -/

namespace Adapter

/-- Adapting is narrowing and tidying. -/
theorem adaptDocument_eq (a : Adapter) (d : Document) :
    a.adaptDocument d =
      match d.isolate a.rootField with
      | .error reason => .skipped reason
      | .ok narrowed => .adapted (narrowed.tidy a.rule a.typePrefix) := by
  rw [adaptDocument]
  cases d.isolate a.rootField with
  | error reason => rfl
  | ok narrowed => simp only [Document.normalize_strip]

variable {a : Adapter} {d : Document}

/-- Adapting is skipped for the reasons isolation has, and for no other. -/
theorem adaptDocument_eq_skipped_iff {reason : IsolationError} :
    a.adaptDocument d = .skipped reason ↔ d.isolate a.rootField = .error reason := by
  rw [adaptDocument_eq]
  cases d.isolate a.rootField <;> simp

/-- What is adapted is what the document was narrowed to, tidied. -/
theorem adaptDocument_eq_adapted_iff {o : Document} :
    a.adaptDocument d = .adapted o ↔
      ∃ narrowed, d.Narrows a.rootField narrowed ∧ o = narrowed.tidy a.rule a.typePrefix := by
  simp only [← Document.isolate_eq_ok_iff]
  rw [adaptDocument_eq]
  cases d.isolate a.rootField <;> simp [eq_comm]

/-- The adapter with these settings. -/
def configured (rule : DerivedRule) (root prefixName : String) : Adapter :=
  ((Adapter.default.setRule rule).setRootField root).setTypePrefix prefixName

/-- Adapting, case by case. A document is skipped for one of two reasons and then nothing is
made of it; otherwise there is nothing to report, and what is made of it is the narrowed
document tidied. -/
theorem adaptDocument_iff (rule : DerivedRule) (root prefixName : String) (d : Document) :
    let outcome := (configured rule root prefixName).adaptDocument d
    (outcome.document? = none ↔ root ≠ "" ∧ (d.LacksRoot root ∨ d.HasLeafRoot root)) ∧
      (outcome.diagnostics = [.rootFieldNotFound root] ↔ root ≠ "" ∧ d.LacksRoot root) ∧
      (outcome.diagnostics = [.rootFieldHasNoSelections root] ↔
        root ≠ "" ∧ d.HasLeafRoot root) ∧
      ∀ o, outcome.document? = some o ↔ outcome.diagnostics = [] ∧
        ∃ narrowed, d.Narrows root narrowed ∧ o = narrowed.tidy rule (.ofName prefixName) := by
  intro outcome
  -- an outcome is skipped for a reason or adapted to a document, and isolating decides which
  have hskipped : ∀ reason, outcome = .skipped reason ↔ d.isolate root = .error reason :=
    fun reason => adaptDocument_eq_skipped_iff
  have hadapted : ∀ o, outcome = .adapted o ↔
      ∃ narrowed, d.Narrows root narrowed ∧ o = narrowed.tidy rule (.ofName prefixName) :=
    fun o => adaptDocument_eq_adapted_iff
  have hnone : outcome.document? = none ↔ ∃ reason, outcome = .skipped reason := by
    cases outcome <;> simp [Outcome.document?]
  have hdiagnostics : ∀ reason, outcome.diagnostics = [reason] ↔ outcome = .skipped reason := by
    intro reason
    cases outcome <;> simp [Outcome.diagnostics]
  refine ⟨?_, ?_, ?_, fun o => ?_⟩
  · rw [hnone]
    constructor
    · rintro ⟨reason, hreason⟩
      have hisolate := (hskipped reason).mp hreason
      rcases Document.isolate_eq_error hisolate with rfl | rfl
      · exact (Document.isolate_eq_notFound_iff.mp hisolate).imp_right Or.inl
      · exact (Document.isolate_eq_noSelections_iff.mp hisolate).imp_right Or.inr
    · rintro ⟨hroot, hlacks | hleaf⟩
      · exact ⟨_, (hskipped _).mpr (Document.isolate_eq_notFound_iff.mpr ⟨hroot, hlacks⟩)⟩
      · exact
          ⟨_, (hskipped _).mpr (Document.isolate_eq_noSelections_iff.mpr ⟨hroot, hleaf⟩)⟩
  · rw [hdiagnostics, hskipped, Document.isolate_eq_notFound_iff]
  · rw [hdiagnostics, hskipped, Document.isolate_eq_noSelections_iff]
  · rw [← hadapted]
    cases outcome <;> simp [Outcome.document?, Outcome.diagnostics, eq_comm]

end Adapter

end Refetch
