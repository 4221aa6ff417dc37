import Mathlib
import Refetch.Document.Printer
import Refetch.Proofs.TypePrefix
import Refetch.Proofs.Document.Building
import Refetch.Proofs.Pass.Fusion

/-!
# The names of types

Taking a prefix off the types of a document takes it off the name of each of them. What is left of
a name is not empty and holds no other characters than names do; but if the marker of the prefix
has a digit behind it, what is left starts with the digit and is no name.

* `Document.typeNames_normalize` — the names of types are normalized one by one
* `Document.isName_of_mem_typeNames` — the types of a document that is read go by names
* `Document.normalize_names_iff` — when they still do without the prefix
-/

namespace Refetch

/-! ## Names of types -/

mutual

/-- The type conditions in and below a selection. -/
def Selection.typeNames : Selection → List String
  | .field _ _ items => selectionsTypeNames items
  | .spread .. => []
  | .inline _ on? _ _ items => on?.toList ++ selectionsTypeNames items

/-- The type conditions in and below some selections. -/
def selectionsTypeNames : List Selection → List String
  | [] => []
  | item :: rest => item.typeNames ++ selectionsTypeNames rest

end

/-- The names of all types: those of variables and the type conditions. -/
def Document.typeNames (d : Document) : List String :=
  d.definitions.flatMap fun definition =>
    definition.head.typeNames ++ selectionsTypeNames definition.body.items

/-! ## Taking a prefix off -/

section Normalizing

variable (p : TypePrefix)

theorem type_normalizing (path : Path) (type : TypeRef) :
    ((p.normalizing : Pass Id).type path type).name = p.normalize type.name := by
  induction type generalizing path with
  | named name => rfl
  | list inner ih => exact ih _
  | nonNull inner ih => exact ih _

theorem condition?_normalizing (path : Path) (on? : Option String) :
    (p.normalizing : Pass Id).condition? path on? = on?.map p.normalize := by
  cases on? <;> rfl

mutual

/-- The names of types in a selection are normalized one by one, in place. -/
theorem selection_normalizing (path : Path) (item : Selection) :
    ((p.normalizing : Pass Id).selection path item).typeNames =
      item.typeNames.map p.normalize := by
  cases item with
  | field head span items =>
    rw [Pass.selection_field, Selection.typeNames, Selection.typeNames, selections_normalizing]
  | spread pos name dirs =>
    rw [Pass.selection_spread, Selection.typeNames, Selection.typeNames, List.map_nil]
  | inline pos on? dirs span items =>
    rw [Pass.selection_inline, Selection.typeNames, Selection.typeNames, selections_normalizing,
      condition?_normalizing, List.map_append, Option.toList_map]

theorem selections_normalizing (path : Path) (items : List Selection) :
    selectionsTypeNames ((p.normalizing : Pass Id).selections path items) =
      (selectionsTypeNames items).map p.normalize := by
  cases items with
  | nil => rw [Pass.selections_nil, selectionsTypeNames, List.map_nil]
  | cons item rest =>
    -- everything is kept
    have hkeep : (p.normalizing : Pass Id).keep path item = true := rfl
    rw [Pass.selections_cons, hkeep, cond_true, selectionsTypeNames, selectionsTypeNames,
      selection_normalizing, selections_normalizing, List.map_append]

end

theorem head_normalizing (path : Path) (head : Head) :
    ((p.normalizing : Pass Id).head path head).typeNames = head.typeNames.map p.normalize := by
  cases head with
  | bare => rfl
  | operation kind pos name? vars dirs =>
    rw [Pass.head_operation, Head.typeNames, Head.typeNames, List.map_map, List.map_map]
    refine List.map_congr_left fun var _ => ?_
    exact type_normalizing p _ var.type
  | fragment pos name on dirs => rfl

/-- The names of types are normalized one by one. -/
theorem Document.typeNames_normalize (d : Document) :
    (d.normalize p).typeNames = d.typeNames.map p.normalize := by
  rw [Document.normalize, Pass.run_eq, typeNames, typeNames, List.flatMap_map, List.map_flatMap]
  congr 1
  funext definition
  rw [Pass.definition_eq, head_normalizing, selections_normalizing, List.map_append]

end Normalizing

/-! ## Names -/

theorem selectionsTypeNames_named {items : List Selection}
    (h : ∀ item ∈ items, ∀ name ∈ item.typeNames, isName name = true) :
    ∀ name ∈ selectionsTypeNames items, isName name = true := by
  induction items with
  | nil => simp [selectionsTypeNames]
  | cons item rest ih =>
    rw [List.forall_mem_cons] at h
    rw [selectionsTypeNames, List.forall_mem_append]
    exact ⟨h.1, ih h.2⟩

/-- The type conditions that the grammar reads are names. -/
theorem Selection.built_named :
    Grammar.Built fun item => ∀ name ∈ item.typeNames, isName name = true where
  leaf head span := by simp [Selection.typeNames, selectionsTypeNames]
  field head span items _ h := by
    rw [Selection.typeNames]
    exact selectionsTypeNames_named h
  spread pos name dirs := by simp [Selection.typeNames]
  inline pos on? dirs span items hon _ h := by
    rw [Selection.typeNames, List.forall_mem_append]
    exact ⟨fun name hname => hon name (by simpa using hname), selectionsTypeNames_named h⟩

/-- The types of a document that is read go by names. -/
theorem Document.isName_of_mem_typeNames {text : String} {d : Document}
    (h : Document.parse text = .ok d) : ∀ name ∈ d.typeNames, isName name = true := by
  rw [typeNames, List.forall_mem_flatMap]
  intro definition hmem
  obtain ⟨hhead, -, hitems⟩ := Document.built_of_parse Selection.built_named h definition hmem
  exact List.forall_mem_append.mpr ⟨hhead, selectionsTypeNames_named hitems⟩

namespace TypePrefix

/-- Some copies of the marker, none perhaps, and behind them a digit. -/
def DigitBehind (marker name : List Char) : Prop :=
  ∃ k c rest, name = copies marker k ++ c :: rest ∧ c.isDigit = true

variable {marker : List Char} {p : TypePrefix} {name : String}

theorem not_digitBehind {name : List Char} (h : name.any Char.isDigit = false) :
    ¬ DigitBehind marker name := by
  rintro ⟨k, c, rest, rfl, hdigit⟩
  rw [List.any_append, List.any_cons, hdigit, Bool.true_or, Bool.or_true] at h
  cases h

/-- What is left of a name behind the marker is not empty, and has the characters of names. -/
theorem normalize_of_isName (p : TypePrefix) (h : isName name = true) :
    p.normalize name ≠ "" ∧ ∀ c ∈ (p.normalize name).toList, isNameChar c = true := by
  obtain ⟨first, rest, hname, hfirst, hrest⟩ := isName_iff.mp h
  have hchars : ∀ c ∈ name.toList, isNameChar c = true := by
    rw [hname, List.forall_mem_cons]
    exact ⟨isNameChar_of_isNameStart hfirst, hrest⟩
  have hne : dropMarker p.marker name.toList ≠ [] :=
    dropMarker_ne_nil (by rw [hname]; exact List.cons_ne_nil _ _)
  obtain ⟨k, hk⟩ := exists_copies p.marker name.toList
  rw [hk, List.forall_mem_append] at hchars
  rw [normalize, String.toList_ofList]
  exact ⟨fun hempty => hne (by simpa using congrArg String.toList hempty), hchars.2⟩

/-- A name stays one unless there is a digit behind the marker. -/
theorem isName_normalize_iff (h : isName name = true) :
    isName (p.normalize name) = true ↔ ¬ DigitBehind p.marker name.toList := by
  constructor
  · rintro hleft ⟨k, c, rest, hsplit, hdigit⟩
    have hne : ∀ d, isNameStart d = true → d ≠ c := by
      rintro d hd rfl
      rw [isNameStart_of_isDigit hdigit] at hd
      cases hd
    -- no name starts with a digit, so the marker is there and starts as the name does
    obtain ⟨first, tail, hname, hfirst, -⟩ := isName_iff.mp h
    obtain ⟨marker', hmarker⟩ := exists_marker_eq_cons (hname.symm.trans hsplit) (hne first hfirst)
    have hdrop : dropMarker p.marker name.toList = c :: rest := by
      rw [hsplit, dropMarker_copies_append (by simp [hmarker]) (List.cons_ne_nil _ _)]
      refine dropMarker_eq_self fun more _ heq => ?_
      rw [hmarker, List.cons_append, List.cons.injEq] at heq
      exact hne first hfirst heq.1.symm
    rw [normalize, hdrop, isName_ofList_iff] at hleft
    obtain ⟨c', rest', heq, hc', -⟩ := hleft
    exact hne c' hc' (List.cons.inj heq).1.symm
  · intro hbehind
    obtain ⟨hne, hchars⟩ := normalize_of_isName p h
    obtain ⟨k, hk⟩ := exists_copies p.marker name.toList
    rw [normalize, String.toList_ofList] at hchars
    rw [normalize, isName_ofList_iff]
    cases hdrop : dropMarker p.marker name.toList with
    | nil => exact absurd (congrArg String.ofList hdrop) hne
    | cons c rest =>
      rw [hdrop] at hk hchars
      rw [List.forall_mem_cons] at hchars
      have hstart := (isNameChar_iff.mp hchars.1).resolve_right fun hdigit =>
        hbehind ⟨k, c, rest, hk, hdigit⟩
      exact ⟨c, rest, rfl, hstart, hchars.2⟩

end TypePrefix

/-! ## Names without their prefix -/

/-- Without a prefix, the names of types in a document that is read are not empty and have the
characters of names, and all of them are names exactly when there is none with a digit behind
copies of the marker. If there is one, no text is read to a document with these types, the
printed one neither. -/
theorem Document.normalize_names_iff {text : String} {d : Document}
    (h : Document.parse text = .ok d) (prefixName : String) :
    (∀ name ∈ (d.normalize (.ofName prefixName)).typeNames,
        name ≠ "" ∧ ∀ c ∈ name.toList, isNameChar c = true) ∧
      ((∀ name ∈ (d.normalize (.ofName prefixName)).typeNames, isName name = true) ↔
        ∀ name ∈ d.typeNames,
          ¬ TypePrefix.DigitBehind (TypePrefix.ofName prefixName).marker name.toList) ∧
      ∀ again e, Document.parse again = .ok e →
        e.typeNames = (d.normalize (.ofName prefixName)).typeNames →
          ∀ name ∈ d.typeNames,
            ¬ TypePrefix.DigitBehind (TypePrefix.ofName prefixName).marker name.toList := by
  have hnamed := Document.isName_of_mem_typeNames h
  have hiff : (∀ name ∈ (d.normalize (.ofName prefixName)).typeNames, isName name = true) ↔
      ∀ name ∈ d.typeNames,
        ¬ TypePrefix.DigitBehind (TypePrefix.ofName prefixName).marker name.toList := by
    rw [typeNames_normalize, List.forall_mem_map]
    exact forall₂_congr fun name hmem => TypePrefix.isName_normalize_iff (hnamed name hmem)
  refine ⟨?_, hiff, fun again e hagain hsame => ?_⟩
  · rw [typeNames_normalize, List.forall_mem_map]
    exact fun name hmem => TypePrefix.normalize_of_isName _ (hnamed name hmem)
  · -- whatever is read goes by names
    rw [← hiff, ← hsame]
    exact Document.isName_of_mem_typeNames hagain

/-- A query with types in a variable and in a condition. -/
def prefixedQuery : String := "query Q($a:[NS_A!])\x7bb\x7b...on NS_B\x7bc\x7d\x7d\x7d"

theorem parse_prefixedQuery :
    ∃ d, Document.parse prefixedQuery = .ok d ∧ d.typeNames = ["NS_A", "NS_B"] :=
  ⟨_, by cbv, by cbv⟩

/-- Names of letters stay names. -/
theorem Document.normalize_names_of_letters :
    ∃ d, Document.parse prefixedQuery = .ok d ∧
      ∀ name ∈ (d.normalize (.ofName "NS")).typeNames, isName name = true := by
  obtain ⟨d, hd, hnames⟩ := parse_prefixedQuery
  refine ⟨d, hd, (Document.normalize_names_iff hd "NS").2.1.mpr ?_⟩
  rw [hnames, List.forall_mem_cons, List.forall_mem_singleton]
  exact ⟨TypePrefix.not_digitBehind (by decide), TypePrefix.not_digitBehind (by decide)⟩

/-- A query for one field on a type, with the columns of its braces. -/
def fieldOnType (typeName : String) (opening closing : Nat) : Document :=
  ⟨[⟨.bare, ⟨⟨1, 1⟩, ⟨1, closing + 1⟩⟩,
    [.inline ⟨1, 5⟩ (some typeName) [] ⟨⟨1, opening⟩, ⟨1, closing⟩⟩
      [.field ⟨⟨1, opening + 1⟩, none, "a", [], []⟩
        ⟨⟨1, opening + 1⟩, ⟨1, opening + 1⟩⟩ []]]⟩]⟩

theorem parse_numberedType :
    Document.parse "\x7b...on NS_1\x7ba\x7d\x7d" = .ok (fieldOnType "NS_1" 12 14) := by
  cbv

theorem normalize_numberedType :
    (fieldOnType "NS_1" 12 14).normalize (.ofName "NS") = fieldOnType "1" 12 14 := by
  cbv

/-- Of `NS_1` the prefix leaves a digit, and the printed query is no document any more. -/
theorem Document.normalize_names_of_number :
    Document.parse "\x7b...on NS_1\x7ba\x7d\x7d" = .ok (fieldOnType "NS_1" 12 14) ∧
      ((fieldOnType "NS_1" 12 14).normalize (.ofName "NS")).typeNames = ["1"] ∧
      isName "1" = false ∧
      ∀ d, Document.parse ((fieldOnType "NS_1" 12 14).normalize (.ofName "NS")).print ≠ .ok d := by
  have hread : Document.parse (fieldOnType "1" 12 14).print = .error (.refused ⟨2, 10⟩) := by cbv
  have hnames : (fieldOnType "1" 12 14).typeNames = ["1"] := by decide
  rw [normalize_numberedType, hread]
  refine ⟨parse_numberedType, hnames, by decide, fun d h => ?_⟩
  cases h

end Refetch
