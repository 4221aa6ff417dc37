import Refetch.Proofs.Reordering
import Refetch.Proofs.Settled

/-!
# Stripping by several rules

A document may be stripped by one rule after another. What is left is told by the nodes of the
document, each taken together with the nodes above it: those stay that are no derived field under
any of the rules and have none above them. The rules are asked about each node by itself, so it
does not matter in which order they come or how often.

* `selectionsLineages_inj` — selections are told by their nodes, each with those above it
* `selectionsLineages_tidySelections` — which nodes stay under one rule
* `Document.stripAll_iff` — what is left under several rules
-/

namespace Refetch

/-! ## Nodes and what is above them -/

/-- The node alone, without what is below it. -/
def Selection.alone : Selection → Selection
  | .field head span _ => .field head span []
  | .spread pos name dirs => .spread pos name dirs
  | .inline pos on? dirs span _ => .inline pos on? dirs span []

/-- A node and the nodes above it, nearest first, each of them alone. -/
abbrev Lineage := List Selection

mutual

/-- The selection and what is below it, node by node in the order written. -/
def Selection.lineages (above : Lineage) : Selection → List Lineage
  | .field head span items =>
    (.field head span [] :: above) :: selectionsLineages (.field head span [] :: above) items
  | .spread pos name dirs => [.spread pos name dirs :: above]
  | .inline pos on? dirs span items =>
    (.inline pos on? dirs span [] :: above) ::
      selectionsLineages (.inline pos on? dirs span [] :: above) items

/-- The selections and what is below them, node by node in the order written. -/
def selectionsLineages (above : Lineage) : List Selection → List Lineage
  | [] => []
  | item :: rest => item.lineages above ++ selectionsLineages above rest

end

theorem selectionsLineages_nil (above : Lineage) : selectionsLineages above [] = [] := by
  rw [selectionsLineages]

/-- A selection's lineages are its own, then those of the selections below it. -/
theorem Selection.lineages_eq (above : Lineage) (item : Selection) :
    item.lineages above =
      (item.alone :: above) :: selectionsLineages (item.alone :: above) item.items := by
  cases item <;> simp [Selection.lineages, Selection.alone, Selection.items, selectionsLineages_nil]

/-- The lineages of a set are listed selection by selection, each with all below it. -/
theorem selectionsLineages_cons (above : Lineage) (item : Selection) (rest : List Selection) :
    selectionsLineages above (item :: rest) =
      (item.alone :: above) ::
        (selectionsLineages (item.alone :: above) item.items ++ selectionsLineages above rest) := by
  rw [selectionsLineages, Selection.lineages_eq, List.cons_append]

/-- Of selections below some nodes each node has these above it, and perhaps others in between. -/
theorem mem_selectionsLineages {above lineage : Lineage} {items : List Selection}
    (h : lineage ∈ selectionsLineages above items) :
    ∃ node between, lineage = node :: (between ++ above) := by
  induction items using selections_induction generalizing above with
  | nil =>
    rw [selectionsLineages_nil] at h
    cases h
  | cons item rest ihbelow ihrest =>
    rw [selectionsLineages_cons, List.mem_cons, List.mem_append] at h
    rcases h with rfl | h | h
    · exact ⟨item.alone, [], rfl⟩
    · obtain ⟨node, between, rfl⟩ := ihbelow h
      exact ⟨node, between ++ [item.alone], by simp⟩
    · exact ihrest h

/-! ## Selections told by their nodes -/

theorem Selection.eq_of_alone {item other : Selection} (halone : item.alone = other.alone)
    (hitems : item.items = other.items) : item = other := by
  cases item <;> cases other <;> simp_all [Selection.alone, Selection.items]

/-- Nodes below an item are deeper than those of the items behind it, so they end where the first
of these comes. -/
theorem takeWhile_lineages (above : Lineage) (item : Selection) (rest : List Selection) :
    (selectionsLineages (item.alone :: above) item.items ++ selectionsLineages above rest).takeWhile
        (fun lineage => above.length + 1 < lineage.length) =
      selectionsLineages (item.alone :: above) item.items := by
  have hbelow : ∀ lineage ∈ selectionsLineages (item.alone :: above) item.items,
      decide (above.length + 1 < lineage.length) = true := by
    intro lineage hmem
    obtain ⟨node, between, rfl⟩ := mem_selectionsLineages hmem
    simp
  rw [List.takeWhile_append_of_pos hbelow]
  cases rest with
  | nil => simp [selectionsLineages_nil]
  | cons next rest => simp [selectionsLineages_cons]

/-- Selections with the same nodes, each below the same ones, are the same. -/
theorem selectionsLineages_inj {above : Lineage} {items others : List Selection}
    (h : selectionsLineages above items = selectionsLineages above others) : items = others := by
  induction items using selections_induction generalizing above others with
  | nil =>
    cases others with
    | nil => rfl
    | cons other rest =>
      rw [selectionsLineages_nil, selectionsLineages_cons] at h
      cases h
  | cons item rest ihbelow ihrest =>
    cases others with
    | nil =>
      rw [selectionsLineages_nil, selectionsLineages_cons] at h
      cases h
    | cons other rest' =>
      rw [selectionsLineages_cons, selectionsLineages_cons, List.cons.injEq, List.cons.injEq] at h
      obtain ⟨⟨halone, -⟩, hnodes⟩ := h
      -- the deeper nodes that come next are those below the two items, and the rest is behind them
      have hbelow := congrArg (List.takeWhile fun l => decide (above.length + 1 < l.length)) hnodes
      rw [takeWhile_lineages, takeWhile_lineages] at hbelow
      rw [hbelow, List.append_cancel_left_eq] at hnodes
      rw [halone] at hbelow
      rw [Selection.eq_of_alone halone (ihbelow hbelow), ihrest hnodes]

/-! ## Nodes that stay -/

/-- The node is no derived field under any of the rules. -/
def Lasting (rules : List DerivedRule) (node : Selection) : Bool :=
  rules.all fun rule => !node.isDerivedField rule

/-- Neither the node nor any above it is a derived field under one of the rules. -/
def Stays (rules : List DerivedRule) (lineage : Lineage) : Bool := lineage.all (Lasting rules)

/-- A node stays if it lasts and the node above it stays. -/
theorem stays_cons (rules : List DerivedRule) (node : Selection) (above : Lineage) :
    Stays rules (node :: above) = (Lasting rules node && Stays rules above) := rfl

theorem stays_nil (lineage : Lineage) : Stays [] lineage = true := by
  simp [Stays, Lasting]

/-- To stay under several rules is to stay under each. -/
theorem stays_iff {rules : List DerivedRule} {lineage : Lineage} :
    Stays rules lineage = true ↔
      ∀ rule ∈ rules, ∀ node ∈ lineage, node.isDerivedField rule = false := by
  simp only [Stays, Lasting, List.all_eq_true, Bool.not_eq_true']
  exact ⟨fun h rule hrule node hnode => h node hnode rule hrule,
    fun h node hnode rule hrule => h rule hrule node hnode⟩

section Tidied

variable {rule : DerivedRule} {item : Selection}

theorem lasting_alone (rule : DerivedRule) (item : Selection) :
    Lasting [rule] item.alone = !item.isDerivedField rule := by
  cases item <;> simp [Lasting, Selection.alone, Selection.isDerivedField]

/-- Stripping leaves a selection itself as it is. -/
theorem alone_tidy : (item.tidy rule .none).alone = item.alone := by
  cases item with
  | field head span items => rw [Selection.tidy]; rfl
  | spread pos name dirs => rw [Selection.tidy]
  | inline pos on? dirs span items =>
    rw [Selection.tidy]
    cases on? <;> simp [Selection.alone]

/-- Nothing stays below a node that goes. -/
theorem filter_stays_below {above : Lineage} {node : Selection} (items : List Selection)
    (hnode : Lasting [rule] node = false) :
    (selectionsLineages (node :: above) items).filter (Stays [rule]) = [] := by
  rw [List.filter_eq_nil_iff]
  intro lineage hmem
  obtain ⟨inner, between, rfl⟩ := mem_selectionsLineages hmem
  simp [Stays, hnode]

/-- Of selections below nodes that stay, those nodes stay under a rule that stay themselves and
have nothing above them that goes. -/
theorem selectionsLineages_tidySelections {above : Lineage} (habove : Stays [rule] above = true)
    (items : List Selection) :
    selectionsLineages above (tidySelections rule .none items) =
      (selectionsLineages above items).filter (Stays [rule]) := by
  induction items using selections_induction generalizing above with
  | nil => rw [tidySelections, selectionsLineages_nil, List.filter_nil]
  | cons item rest ihbelow ihrest =>
    have hlasting := lasting_alone rule item
    have hnode := stays_cons [rule] item.alone above
    rw [hlasting, habove, Bool.and_true] at hnode
    rw [tidySelections, selectionsLineages_cons]
    cases hderived : item.isDerivedField rule with
    | true =>
      -- the node itself goes, and it is above all the nodes below it
      rw [hderived] at hlasting hnode
      rw [if_pos rfl, ihrest habove, List.filter_cons_of_neg (by simp [hnode]),
        List.filter_append, filter_stays_below item.items hlasting, List.nil_append]
    | false =>
      rw [hderived] at hnode
      rw [if_neg Bool.false_ne_true, selectionsLineages_cons, alone_tidy, Selection.items_tidy,
        ihbelow hnode, ihrest habove, List.filter_cons_of_pos hnode, List.filter_append]

end Tidied

/-! ## Documents -/

/-- What is left of a definition under some rules: its head, its braces and the nodes that stay,
as they were and in their order. -/
structure Definition.KeepsStaying (rules : List DerivedRule) (old new : Definition) : Prop where
  /-- the head is the same -/
  head : new.head = old.head
  /-- the braces are the same -/
  span : new.body.span = old.body.span
  /-- the nodes are those that stay -/
  nodes : selectionsLineages [] new.body.items =
    (selectionsLineages [] old.body.items).filter (Stays rules)

theorem Head.tidy_none (head : Head) : head.tidy .none = head :=
  Head.tidy_eq_self_iff.mpr fun _ _ hmarker => absurd rfl hmarker

theorem Definition.keepsStaying_tidy (rule : DerivedRule) (definition : Definition) :
    definition.KeepsStaying [rule] (definition.tidy rule .none) where
  head := definition.head.tidy_none
  span := rfl
  nodes := selectionsLineages_tidySelections rfl definition.body.items

/-- What is left under one rule and then under others is what is left under all of them. -/
theorem Definition.KeepsStaying.trans {rules others : List DerivedRule} {a b c : Definition}
    (hab : a.KeepsStaying rules b) (hbc : b.KeepsStaying others c) :
    a.KeepsStaying (rules ++ others) c where
  head := hbc.head.trans hab.head
  span := hbc.span.trans hab.span
  nodes := by
    rw [hbc.nodes, hab.nodes, List.filter_filter]
    congr 1
    funext lineage
    rw [Bool.eq_iff_iff, Bool.and_eq_true]
    simp only [stays_iff, List.forall_mem_append]
    exact and_comm

theorem Definition.keepsStaying_nil (definition : Definition) :
    definition.KeepsStaying [] definition where
  head := rfl
  span := rfl
  nodes := (List.filter_eq_self.mpr fun lineage _ => stays_nil lineage).symm

/-- Which rules there are decides what is left, not their order. -/
theorem Definition.KeepsStaying.congr {rules others : List DerivedRule} {old new : Definition}
    (hsame : ∀ rule, rule ∈ others ↔ rule ∈ rules) (h : old.KeepsStaying others new) :
    old.KeepsStaying rules new where
  head := h.head
  span := h.span
  nodes := by
    rw [h.nodes]
    congr 1
    funext lineage
    rw [Bool.eq_iff_iff]
    simp only [stays_iff, hsame]

/-- The nodes leave no choice of what is left. -/
theorem Definition.rightUnique_keepsStaying (rules : List DerivedRule) :
    Relator.RightUnique (Definition.KeepsStaying rules) := by
  rintro old ⟨head, span, items⟩ ⟨head', span', items'⟩ ⟨hhead, hspan, hnodes⟩
    ⟨hhead', hspan', hnodes'⟩
  obtain rfl := hhead.trans hhead'.symm
  obtain rfl := hspan.trans hspan'.symm
  obtain rfl := selectionsLineages_inj (hnodes.trans hnodes'.symm)
  rfl

namespace Document

/-- The document stripped by some rules, one after the other. -/
def stripAll (d : Document) (rules : List DerivedRule) : Document := rules.foldl strip d

/-- One more rule strips what the others left. -/
theorem stripAll_concat (d : Document) (rules : List DerivedRule) (rule : DerivedRule) :
    d.stripAll (rules ++ [rule]) = (d.stripAll rules).strip rule := by
  rw [stripAll, List.foldl_append]
  rfl

/-- Stripping changes nothing when no field is derived. -/
theorem strip_eq_self_iff {d : Document} {rule : DerivedRule} :
    d.strip rule = d ↔ ∀ name ∈ d.fieldNames, rule.isDerived name = false := by
  rw [strip_eq_tidy, tidy_eq_self_iff]
  exact ⟨Settled.fields, fun hfields => ⟨hfields, fun _ _ hmarker => absurd rfl hmarker⟩⟩

theorem keepsStaying_stripAll (d : Document) (rules : List DerivedRule) :
    List.Forall₂ (Definition.KeepsStaying rules) d.definitions (d.stripAll rules).definitions := by
  induction rules generalizing d with
  | nil => exact List.forall₂_same.mpr fun definition _ => definition.keepsStaying_nil
  | cons rule rest ih =>
    have hstrip : (d.strip rule).definitions = d.definitions.map (·.tidy rule .none) := by
      rw [strip_eq_tidy]
      rfl
    have hrest := ih (d.strip rule)
    rw [hstrip, List.forall₂_map_left_iff] at hrest
    exact hrest.imp fun old new hnew => (old.keepsStaying_tidy rule).trans hnew

/-- Stripping by some rules is known by this: it keeps exactly the nodes that stay under all of
them. -/
theorem stripAll_eq_iff {d e : Document} {rules : List DerivedRule} :
    e = d.stripAll rules ↔
      List.Forall₂ (Definition.KeepsStaying rules) d.definitions e.definitions := by
  constructor
  · rintro rfl
    exact d.keepsStaying_stripAll rules
  · intro h
    have hdefinitions := List.right_unique_forall₂' (Definition.rightUnique_keepsStaying rules) h
      (d.keepsStaying_stripAll rules)
    obtain ⟨definitions⟩ := e
    exact congrArg mk hdefinitions

/-- Stripping by the same rules gives the same, in whatever order and however often each comes. -/
theorem stripAll_congr {rules others : List DerivedRule} (d : Document)
    (hsame : ∀ rule, rule ∈ others ↔ rule ∈ rules) : d.stripAll others = d.stripAll rules :=
  stripAll_eq_iff.mpr ((d.keepsStaying_stripAll others).imp fun _ _ hnew => hnew.congr hsame)

/-- Some rules change nothing together when each of them changes nothing. -/
theorem stripAll_eq_self_iff {d : Document} {rules : List DerivedRule} :
    d.stripAll rules = d ↔ ∀ rule ∈ rules, d.strip rule = d := by
  constructor
  · intro hself rule hrule
    -- the rule may as well come once more, after all the others
    have hagain : d.stripAll (rules ++ [rule]) = d.stripAll rules :=
      d.stripAll_congr (by simpa using hrule)
    rwa [stripAll_concat, hself] at hagain
  · intro hself
    induction rules with
    | nil => rfl
    | cons rule rest ih =>
      rw [List.forall_mem_cons] at hself
      rw [stripAll, List.foldl_cons, hself.1]
      exact ih hself.2

/-- What is left of a document stripped by some rules, one after the other: of each definition the
head and the braces, and of its nodes those that are no derived field under any of the rules and
have none above them, in their order. It is the same for every list of the same rules, and it is
the document itself exactly when none of its fields is derived under any of them. -/
theorem stripAll_iff (d : Document) (rules : List DerivedRule) :
    (∀ e, e = d.stripAll rules ↔
      List.Forall₂ (Definition.KeepsStaying rules) d.definitions e.definitions) ∧
    (∀ others : List DerivedRule, (∀ rule, rule ∈ others ↔ rule ∈ rules) →
      d.stripAll others = d.stripAll rules) ∧
    (d.stripAll rules = d ↔
      ∀ rule ∈ rules, ∀ name ∈ d.fieldNames, rule.isDerived name = false) := by
  refine ⟨fun e => stripAll_eq_iff, fun others hsame => d.stripAll_congr hsame, ?_⟩
  rw [stripAll_eq_self_iff]
  exact forall₂_congr fun rule _ => strip_eq_self_iff

end Document

end Refetch
