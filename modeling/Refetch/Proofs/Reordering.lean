import Refetch.Proofs.OnePass

/-!
# The steps in another order

Adapting narrows a document, then strips it, then normalizes it. Here stands what comes of the same
steps otherwise put together: of two passes at once, of normalizing earlier, and of stripping
before narrowing. Each of the two passes is a tidying, so it is enough to know how the search for
the root field fares in a document that has been tidied.

* `Pass.run_composes` — two passes in a row are one
* `Document.normalize_anywhere` — it does not matter when a document is normalized
* `Document.isolate_strip` — what comes of stripping before narrowing, by what comes of narrowing
-/

namespace Refetch

/-! ## Two passes at once -/

/-- The pass that leaves out derived fields and takes the prefix off named types. -/
def tidyingAtOnce (rule : DerivedRule) (p : TypePrefix) : Pass Id where
  keep _ item := !item.isDerivedField rule
  rename path name := if path.head? = some .namedType then p.normalize name else name

/-- Stripping and then taking prefixes off is one pass. -/
theorem fuse_stripping_normalizing (rule : DerivedRule) (p : TypePrefix) :
    Pass.fuse rule.stripping p.normalizing = tidyingAtOnce rule p := by
  apply Pass.ext
  · funext path item
    exact (Bool.and_true _).trans (rule.retains_eq item)
  · funext path name
    rcases path with _ | ⟨kind, path⟩
    · rfl
    · cases kind <;> rfl

/-- Rebuilding a document as it is changes nothing. Passing one pass over it and another over what
comes of it is passing once, with what both keep, the second of the selection as the first leaves
it, and with names renamed by both in turn. Stripping and normalizing are such a pair. -/
theorem Pass.run_composes :
    (∀ d, (identity : Pass Id).run d = d) ∧
      (∀ (f g : Pass Id) (d : Document), g.run (f.run d) = (fuse f g).run d) ∧
      ∀ (rule : DerivedRule) (p : TypePrefix) (d : Document),
        (d.strip rule).normalize p = (tidyingAtOnce rule p).run d := by
  refine ⟨run_identity, fun f g d => (run_fuse f g d).symm, fun rule p d => ?_⟩
  rw [← fuse_stripping_normalizing, run_fuse]
  rfl

/-! ## One pass only -/

namespace DerivedRule

/-- The rule by which no field is derived. -/
def nothing : DerivedRule := ⟨"", ""⟩

@[simp] theorem isDerived_nothing (name : String) : nothing.isDerived name = false := rfl

/-- The rule without suffixes retains every selection. -/
theorem retains_nothing (item : Selection) : nothing.retains item = true := by
  cases item <;> rfl

/-- Stripping by the rule without suffixes keeps everything. -/
theorem stripping_nothing : (nothing.stripping : Pass Id) = Pass.identity := by
  apply Pass.ext
  · funext path item
    exact retains_nothing item
  · rfl

end DerivedRule

namespace TypePrefix

@[simp] theorem normalize_none (name : String) : none.normalize name = name := by
  rw [normalize, none, dropMarker, dif_pos rfl, String.ofList_toList]

theorem normalizing_none : (none.normalizing : Pass Id) = Pass.identity := by
  apply Pass.ext
  · rfl
  · funext path name
    rcases path with _ | ⟨kind, path⟩
    · rfl
    · cases kind
      case namedType => exact normalize_none name
      all_goals rfl

end TypePrefix

namespace Document

variable {rule : DerivedRule} {p : TypePrefix} {root : String} {d narrowed : Document}
  {items : List Selection}

theorem normalize_none (d : Document) : d.normalize .none = d := by
  rw [normalize, TypePrefix.normalizing_none, Pass.run_identity]

/-- Stripping is tidying without a prefix. -/
theorem strip_eq_tidy (d : Document) (rule : DerivedRule) : d.strip rule = d.tidy rule .none := by
  rw [← normalize_strip, normalize_none]

theorem normalize_eq_tidy (d : Document) (p : TypePrefix) : d.normalize p = d.tidy .nothing p := by
  rw [← normalize_strip, strip, DerivedRule.stripping_nothing, Pass.run_identity]

/-! ## Narrowing what has been tidied -/

/-- A field that is not derived is found as before, with its selections tidied; one that is derived
is not found. -/
theorem firstFieldNamed?_tidy :
    firstFieldNamed? root (tidySelections rule p items) =
      if rule.isDerived root then none
      else (firstFieldNamed? root items).map fun set =>
        ⟨set.span, tidySelections rule p set.items⟩ := by
  induction items with
  | nil =>
    rw [tidySelections]
    exact (ite_self none).symm
  | cons item rest ih =>
    rw [tidySelections]
    cases item with
    | field head span items =>
      by_cases hname : head.name = root
      · subst hname
        -- the field is the one looked for, and it stays or goes by that name
        cases h : rule.isDerived head.name with
        | true => simpa [Selection.isDerivedField, h] using ih
        | false => simp [Selection.isDerivedField, h, Selection.tidy, firstFieldNamed?]
      · simp only [firstFieldNamed?, hname, if_false, ← ih]
        split
        · rfl
        · simp [Selection.tidy, firstFieldNamed?, hname]
    | spread pos name dirs =>
      simp [Selection.isDerivedField, Selection.tidy, firstFieldNamed?, ih]
    | inline pos on? dirs span items =>
      simp [Selection.isDerivedField, Selection.tidy, firstFieldNamed?, ih]

/-- What cannot be narrowed cannot be narrowed when it is tidied, for the same reason. -/
theorem isolate_tidy_of_error {reason : IsolationError} (hlasting : rule.isDerived root = false)
    (h : d.isolate root = .error reason) : (d.tidy rule p).isolate root = .error reason := by
  have hroot : root ≠ "" := by
    rintro rfl
    rw [isolate_empty_root] at h
    cases h
  obtain ⟨_ | ⟨first, others⟩⟩ := d
  · exact h
  · rw [tidy, List.map_cons, isolate_cons hroot, Definition.tidy, firstFieldNamed?_tidy, hlasting,
      if_neg Bool.false_ne_true]
    rw [isolate_cons hroot] at h
    rcases hfound : firstFieldNamed? root first.body.items with _ | ⟨span, _ | ⟨item, rest⟩⟩ <;>
      rw [hfound] at h
    · exact h
    · exact h
    · cases h

/-- What can be narrowed can be narrowed when it is tidied, to the narrowed document tidied, unless
nothing is left at the top of that. -/
theorem isolate_tidy_of_ok (hroot : root ≠ "") (hlasting : rule.isDerived root = false)
    (h : d.isolate root = .ok narrowed) :
    ∃ first others, narrowed.definitions = first :: others ∧ first.body.items ≠ [] ∧
      (d.tidy rule p).isolate root =
        if tidySelections rule p first.body.items = [] then .error (.rootFieldHasNoSelections root)
        else .ok (narrowed.tidy rule p) := by
  obtain ⟨rfl, -⟩ | ⟨-, first, others, set, hd, hset, hne, rfl⟩ := isolate_eq_ok_iff.mp h
  · exact absurd rfl hroot
  · refine ⟨_, others, rfl, hne, ?_⟩
    have hfound := firstFieldNamed?_eq_some_iff.mpr hset
    rw [tidy, hd, List.map_cons, isolate_cons hroot, Definition.tidy, firstFieldNamed?_tidy,
      hlasting, if_neg Bool.false_ne_true, hfound, Option.map_some, tidy, List.map_cons,
      Definition.tidy]
    cases tidySelections rule p set.items <;> rfl

/-! ## Normalizing anywhere -/

/-- The two passes in one, in either order: prefixes come off types' names, and derived are fields
by theirs. -/
theorem fuse_normalizing_stripping (rule : DerivedRule) (p : TypePrefix) :
    Pass.fuse p.normalizing rule.stripping = Pass.fuse rule.stripping p.normalizing := by
  apply Pass.ext
  · funext path item
    -- it is by its name that a field is derived, and this is not the name of a type
    have hretains : rule.retains ((p.normalizing : Pass Id).selection path item) =
        rule.retains item := by cases item <;> rfl
    exact (Bool.true_and _).trans (hretains.trans (Bool.and_true _).symm)
  · rfl

/-- Taking prefixes off empties no selection set. -/
theorem tidySelections_nothing_ne_nil (h : items ≠ []) :
    tidySelections .nothing p items ≠ [] := by
  obtain ⟨item, rest, rfl⟩ := List.exists_cons_of_ne_nil h
  have hlasting : item.isDerivedField .nothing = false := by cases item <;> rfl
  rw [tidySelections, hlasting]
  exact List.cons_ne_nil _ _

/-- Prefixes may be taken off before stripping or after it. -/
theorem strip_normalize (d : Document) (p : TypePrefix) (rule : DerivedRule) :
    (d.normalize p).strip rule = (d.strip rule).normalize p := by
  have hfuse := congrArg (·.run d) (fuse_normalizing_stripping rule p)
  simp only [Pass.run_fuse] at hfuse
  exact hfuse

/-- Prefixes may be taken off before narrowing or after it, with the same error. -/
theorem isolate_normalize (d : Document) (p : TypePrefix) (root : String) :
    (d.normalize p).isolate root = (d.isolate root).map (·.normalize p) := by
  by_cases hroot : root = ""
  · subst hroot
    rw [isolate_empty_root, isolate_empty_root]
    rfl
  · rw [normalize_eq_tidy]
    cases h : d.isolate root with
    | error reason => exact isolate_tidy_of_error (DerivedRule.isDerived_nothing root) h
    | ok narrowed =>
      obtain ⟨first, others, -, hne, hisolate⟩ :=
        isolate_tidy_of_ok hroot (DerivedRule.isDerived_nothing root) h
      rw [hisolate, if_neg (tidySelections_nothing_ne_nil hne), Except.map, normalize_eq_tidy]

/-- It does not matter when a document is normalized: before it is stripped or after, before it is
narrowed or after, whether it can be narrowed or not. So adapting with a prefix is adapting the
normalized document without one. -/
theorem normalize_anywhere (d : Document) (p : TypePrefix) (rule : DerivedRule) (root : String) :
    (d.normalize p).strip rule = (d.strip rule).normalize p ∧
      (d.normalize p).isolate root = (d.isolate root).map (·.normalize p) ∧
      ∀ prefixName, (Adapter.mk rule root prefixName p).adaptDocument d =
        (Adapter.mk rule root prefixName .none).adaptDocument (d.normalize p) := by
  refine ⟨strip_normalize d p rule, isolate_normalize d p root, fun prefixName => ?_⟩
  rw [Adapter.adaptDocument, Adapter.adaptDocument, isolate_normalize]
  cases d.isolate root with
  | error reason => rfl
  | ok narrowed =>
    simp only [Except.map, strip_normalize]
    rw [normalize_none]

/-! ## Stripping first -/

/-- A root field that is derived cannot be found once derived fields are stripped. -/
theorem isolate_strip_of_derived (hroot : root ≠ "") (h : rule.isDerived root = true) :
    (d.strip rule).isolate root = .error (.rootFieldNotFound root) := by
  rw [strip_eq_tidy]
  obtain ⟨_ | ⟨first, others⟩⟩ := d
  · exact isolate_nil hroot
  · rw [tidy, List.map_cons, isolate_cons hroot, Definition.tidy, firstFieldNamed?_tidy, if_pos h]

/-- Stripping before narrowing, for any document and rule and a root field that is named. If the
root field is not derived, what cannot be narrowed cannot be narrowed when stripped, for the same
reason; what can be narrowed comes to the same in both orders, unless stripping it last leaves
nothing at the top of its first definition, and then it cannot be narrowed when stripped. If the
root field is derived, it is not found any more. -/
theorem isolate_strip (d : Document) (rule : DerivedRule) (hroot : root ≠ "") :
    (rule.isDerived root = false →
      (∀ reason, d.isolate root = .error reason → (d.strip rule).isolate root = .error reason) ∧
      ∀ narrowed, d.isolate root = .ok narrowed →
        ∃ first others, (narrowed.strip rule).definitions = first :: others ∧
          (first.body.items ≠ [] → (d.strip rule).isolate root = .ok (narrowed.strip rule)) ∧
          (first.body.items = [] →
            (d.strip rule).isolate root = .error (.rootFieldHasNoSelections root))) ∧
    (rule.isDerived root = true →
      (d.strip rule).isolate root = .error (.rootFieldNotFound root)) := by
  refine ⟨fun hlasting => ⟨fun reason h => ?_, fun narrowed h => ?_⟩,
    isolate_strip_of_derived hroot⟩
  · rw [strip_eq_tidy]
    exact isolate_tidy_of_error hlasting h
  · obtain ⟨first, others, hnarrowed, -, hisolate⟩ := isolate_tidy_of_ok hroot hlasting h
    rw [strip_eq_tidy, strip_eq_tidy, hisolate]
    refine ⟨first.tidy rule .none, others.map (·.tidy rule .none), ?_, ?_, ?_⟩
    · rw [tidy, hnarrowed, List.map_cons]
    · exact fun hkept => if_neg hkept
    · exact fun hempty => if_pos hempty

/-- A field with these selections, places left out. -/
def fieldOver (name : String) (items : List Selection) : Selection :=
  .field ⟨.first, none, name, [], []⟩ ⟨.first, .first⟩ items

/-- A query for these selections, places left out. -/
def queryOver (items : List Selection) : Document := ⟨[⟨.bare, ⟨.first, .first⟩, items⟩]⟩

/-- Beside a derived field, a root field with a child to keep comes to the same in both orders, one
with only a derived child does not, a root field that is not there is missed in both orders, and the
derived field is found only by narrowing first. -/
theorem isolate_strip_of_siblings :
    let hero := fieldOver "heroSharp" [fieldOver "src" []]
    let query := queryOver
      [hero, fieldOver "page" [fieldOver "title" [], fieldOver "iconSharp" []]]
    let icons := queryOver [hero, fieldOver "page" [fieldOver "iconSharp" []]]
    "page" ≠ "" ∧ DerivedRule.default.isDerived "page" = false ∧
      (∃ narrowed, query.isolate "page" = .ok narrowed ∧
        (query.strip .default).isolate "page" = .ok (narrowed.strip .default)) ∧
      (∃ narrowed, icons.isolate "page" = .ok narrowed ∧
        (icons.strip .default).isolate "page" = .error (.rootFieldHasNoSelections "page")) ∧
      (query.isolate "about" = .error (.rootFieldNotFound "about") ∧
        (query.strip .default).isolate "about" = .error (.rootFieldNotFound "about")) ∧
      DerivedRule.default.isDerived "heroSharp" = true ∧
        (query.strip .default).isolate "heroSharp" = .error (.rootFieldNotFound "heroSharp") := by
  intro hero query icons
  have hpage : DerivedRule.default.isDerived "page" = false := by decide
  have hhero : DerivedRule.default.isDerived "heroSharp" = true := by decide
  have habout : query.isolate "about" = .error (.rootFieldNotFound "about") := rfl
  refine ⟨by decide, hpage, ⟨_, rfl, ?_⟩, ⟨_, rfl, ?_⟩, ⟨habout, ?_⟩, hhero, ?_⟩
  · obtain ⟨first, others, hfirst, hkept, -⟩ :=
      ((isolate_strip query .default (by decide)).1 hpage).2 _ rfl
    obtain ⟨rfl, -⟩ := List.cons.inj hfirst
    exact hkept (List.cons_ne_nil _ _)
  · obtain ⟨first, others, hfirst, -, hempty⟩ :=
      ((isolate_strip icons .default (by decide)).1 hpage).2 _ rfl
    obtain ⟨rfl, -⟩ := List.cons.inj hfirst
    exact hempty rfl
  · exact ((isolate_strip query .default (by decide)).1 (by decide)).1 _ habout
  · exact (isolate_strip query .default (by decide)).2 hhero

end Document

end Refetch
