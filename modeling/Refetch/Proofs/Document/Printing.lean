import Refetch.Document.Printer
import Refetch.Proofs.Document.Relabelling

/-!
# Printing does not look at places

A document and the document with its places changed print to the same text, so two documents
that are alike do.
-/

namespace Refetch

variable {φ : Relabelling}

mutual

/-- A relabelling that leaves texts as they are leaves values as they are. -/
theorem Value.relabel_of_text (h : φ.text = id) (value : Value) : value.relabel φ = value := by
  cases value with
  | string text => rw [Value.relabel, h, id]
  | list items => rw [Value.relabel, relabelItems_of_text h]
  | object members => rw [Value.relabel, relabelMembers_of_text h]
  | var name => rw [Value.relabel]
  | int n => rw [Value.relabel]
  | float x => rw [Value.relabel]
  | boolean b => rw [Value.relabel]
  | null => rw [Value.relabel]
  | enum name => rw [Value.relabel]

/-- Values have no places of their own: a relabelling that leaves texts alone leaves them alone. -/
theorem relabelItems_of_text (h : φ.text = id) (items : List Value) :
    relabelItems φ items = items := by
  cases items with
  | nil => rw [relabelItems]
  | cons value rest => rw [relabelItems, Value.relabel_of_text h, relabelItems_of_text h]

theorem relabelMembers_of_text (h : φ.text = id) (members : List (String × Value)) :
    relabelMembers φ members = members := by
  cases members with
  | nil => rw [relabelMembers]
  | cons member rest =>
    rw [relabelMembers, Value.relabel_of_text h, relabelMembers_of_text h]

end

theorem printDirectives_relabel (h : φ.text = id) (indent : Nat) (dirs : List Directive) :
    printDirectives indent (dirs.map (·.relabel φ)) = printDirectives indent dirs := by
  rw [printDirectives, printDirectives, List.map_map]
  congr 1
  refine List.map_congr_left fun dir _ => ?_
  simp only [Function.comp, Directive.print, Directive.relabel, relabelMembers_of_text h]

theorem FieldHead.print_relabel (h : φ.text = id) (indent : Nat) (head : FieldHead) :
    (head.relabel φ).print indent = head.print indent := by
  simp only [FieldHead.print, FieldHead.relabel, relabelMembers_of_text h,
    printDirectives_relabel h]

mutual

/-- No place is printed, so places may be changed without a trace. -/
theorem Selection.print_relabel (h : φ.text = id) (indent : Nat) (item : Selection) :
    (item.relabel φ).print indent = item.print indent := by
  cases item with
  | field head span items =>
    cases items with
    | nil =>
      rw [Selection.relabel, relabelSelections, Selection.print, Selection.print,
        FieldHead.print_relabel h]
    | cons item rest =>
      rw [Selection.relabel, relabelSelections, Selection.print, Selection.print,
        FieldHead.print_relabel h, Selection.print_relabel h, printSelections_relabel h]
  | spread pos name dirs =>
    rw [Selection.relabel, Selection.print, Selection.print, printDirectives_relabel h]
  | inline pos on? dirs span items =>
    rw [Selection.relabel, Selection.print, Selection.print, printDirectives_relabel h,
      printSelections_relabel h]

theorem printSelections_relabel (h : φ.text = id) (indent : Nat) (items : List Selection) :
    printSelections indent (relabelSelections φ items) = printSelections indent items := by
  cases items with
  | nil => rw [relabelSelections]
  | cons item rest =>
    rw [relabelSelections, printSelections, printSelections, Selection.print_relabel h,
      printSelections_relabel h]

end

theorem VariableDef.print_relabel (h : φ.text = id) (var : VariableDef) :
    (var.relabel φ).print = var.print := by
  obtain ⟨pos, name, type, _ | value⟩ := var
  · rfl
  · simp only [VariableDef.print, VariableDef.relabel, Option.map_some, Value.relabel_of_text h]

theorem Head.print_relabel (h : φ.text = id) (head : Head) :
    (head.relabel φ).print = head.print := by
  cases head with
  | bare => rfl
  | operation kind pos name? vars dirs =>
    have hvars : (vars.map (·.relabel φ)).map VariableDef.print = vars.map VariableDef.print := by
      rw [List.map_map]
      exact List.map_congr_left fun var _ => VariableDef.print_relabel h var
    simp only [Head.relabel, Head.print, printVariables, List.isEmpty_map, hvars,
      printDirectives_relabel h]
  | fragment pos name on dirs =>
    simp only [Head.relabel, Head.print, printDirectives_relabel h]

/-- Documents that differ in places only are printed alike. -/
theorem Document.print_relabel (h : φ.text = id) (d : Document) :
    (d.relabel φ).print = d.print := by
  rw [Document.print, Document.print, Document.relabel, List.map_map]
  congr 1
  refine List.map_congr_left fun definition _ => ?_
  simp only [Function.comp, Definition.print, Definition.relabel, SelectionSet.relabel,
    Head.print_relabel h, printSelections_relabel h]

/-- Documents that are equal up to places print to the same text. -/
theorem Document.Alike.print_eq {d e : Document} (h : d.Alike e) : d.print = e.print := by
  rw [← Document.print_relabel (φ := .unplacing) rfl d,
    ← Document.print_relabel (φ := .unplacing) rfl e]
  exact congrArg Document.print h

end Refetch
