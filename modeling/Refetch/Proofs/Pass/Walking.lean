import Refetch.Pass.Walk

/-!
# What a walk keeps

All steps of a walk share one stack, but each leaves it as it found it, whatever the pass answers
and in whatever monad it does. So a step asks its questions under the nodes around it, no matter
what was visited before, and a walk does what the pass does that is handed its paths down.

* `Walk.restores_document` — a walk rebuilds a document as the pass does, and in the end nothing
  is left entered
* `Walk.run_document` — so it does what a pass without effects makes of the document
-/

namespace Refetch

namespace Walk

variable {m : Type → Type} [Monad m] {α β : Type}

/-- Started under a path, the step does what `result` does and leaves the stack as it was. -/
def Restores (step : Walk m α) (path : Path) (result : m α) : Prop :=
  step.run path = (·, path) <$> result

variable [LawfulMonad m] {path : Path}

/-! ## Steps in general -/

section Steps

variable {step : Walk m α} {result : m α}

theorem restores_pure (a : α) : Restores (pure a : Walk m α) path (pure a) := by
  rw [Restores, StateT.run_pure, map_pure]

/-- Steps that restore the stack do so one after the other. -/
theorem Restores.bind {next : α → Walk m β} {further : α → m β} (h : Restores step path result)
    (hnext : ∀ a, Restores (next a) path (further a)) :
    Restores (step >>= next) path (result >>= further) := by
  rw [Restores, StateT.run_bind, h, bind_map_left, map_bind]
  exact bind_congr hnext

theorem Restores.map (h : Restores step path result) (f : α → β) :
    Restores (f <$> step) path (f <$> result) := by
  rw [map_eq_pure_bind, map_eq_pure_bind]
  exact h.bind fun a => restores_pure (f a)

/-- What is pushed on the way in is popped on the way out. -/
theorem Restores.within {kind : NodeKind} (h : Restores step (kind :: path) result) :
    Restores (within kind step) path result := by
  rw [Restores] at h
  simp [Restores, Walk.within, h]

theorem Restores.mapM {f : α → Walk m β} {g : α → m β} (h : ∀ a, Restores (f a) path (g a))
    (as : List α) : Restores (as.mapM f) path (as.mapM g) := by
  induction as with
  | nil => exact restores_pure []
  | cons a rest ih =>
    rw [List.mapM_cons, List.mapM_cons]
    exact (h a).bind fun b => ih.bind fun bs => restores_pure (b :: bs)

/-- A question is asked under what is on the stack. -/
theorem restores_asking (ask : Path → m α) :
    Restores (do ask (← get) : Walk m α) path (ask path) := by
  simp [Restores]

end Steps

/-! ## The steps of a walk -/

variable (p : Pass m) (path : Path)

theorem restores_name (text : String) : Restores (name p text) path (p.rename path text) :=
  restores_asking (p.rename · text)

theorem restores_name? (text? : Option String) :
    Restores (name? p text?) path (p.name? path text?) := by
  cases text? with
  | none => exact restores_pure none
  | some text => exact (restores_name p path text).map some

/-- Each type that is entered is left again. -/
theorem restores_type (type : TypeRef) : Restores (Walk.type p type) path (p.type path type) := by
  induction type generalizing path with
  | named text => exact ((restores_name p _ text).map _).within
  | list inner ih => exact ((ih _).map _).within
  | nonNull inner ih => exact ((ih _).map _).within

theorem restores_condition (on : String) :
    Restores (condition p on) path (p.condition path on) :=
  (restores_name p _ on).within

theorem restores_condition? (on? : Option String) :
    Restores (condition? p on?) path (p.condition? path on?) := by
  cases on? with
  | none => exact restores_pure none
  | some on => exact (restores_condition p path on).map some

mutual

/-- A selection leaves the stack as it found it, however deep the selections below it go. -/
theorem restores_selection (path : Path) (item : Selection) :
    Restores (selection p item) path (p.selection path item) := by
  cases item with
  | field head span items =>
    rw [selection, Pass.selection]
    refine .within (.bind (restores_name p _ head.name) fun text => ?_)
    exact .bind (restores_selections _ items).within fun items => restores_pure _
  | spread pos text dirs =>
    rw [selection, Pass.selection]
    exact .within (.bind (restores_name p _ text) fun text => restores_pure _)
  | inline pos on? dirs span items =>
    rw [selection, Pass.selection]
    refine .within (.bind (restores_condition? p _ on?) fun on? => ?_)
    exact .bind (restores_selections _ items).within fun items => restores_pure _

/-- A selection that does not stay is passed over with the stack untouched. -/
theorem restores_selections (path : Path) (items : List Selection) :
    Restores (selections p items) path (p.selections path items) := by
  cases items with
  | nil =>
    rw [selections, Pass.selections]
    exact restores_pure []
  | cons item rest =>
    rw [selections, Pass.selections]
    have hkeep : Restores (do p.keep (← get) item : Walk m Bool) path (p.keep path item) :=
      restores_asking (p.keep · item)
    rw [← bind_assoc]
    refine hkeep.bind fun kept => ?_
    cases kept with
    | false => exact restores_selections path rest
    | true =>
      exact .bind (restores_selection path item) fun item =>
        .bind (restores_selections path rest) fun rest => restores_pure _

end

theorem restores_body (set : SelectionSet) : Restores (body p set) path (p.body path set) :=
  .within (.map (restores_selections p _ set.items) _)

theorem restores_variableDef (var : VariableDef) :
    Restores (variableDef p var) path (p.variableDef path var) := by
  refine .within (.bind (restores_name p _ var.name) fun text => ?_)
  exact .bind (restores_type p _ var.type) fun type => restores_pure _

/-- What a definition says before its selections is walked under the definition. -/
theorem restores_head (head : Head) : Restores (Walk.head p head) path (p.head path head) := by
  cases head with
  | bare => exact restores_pure _
  | operation kind pos text? vars dirs =>
    refine .bind (restores_name? p path text?) fun text? => ?_
    exact .bind (.mapM (restores_variableDef p path) vars) fun vars => restores_pure _
  | fragment pos text on dirs =>
    refine .bind (restores_name p path text) fun text => ?_
    exact .bind (restores_condition p path on) fun on => restores_pure _

end Walk

theorem Head.path_eq (head : Head) : head.path = [head.kind, .document] := by
  cases head <;> rfl

namespace Walk

variable {m : Type → Type} [Monad m] [LawfulMonad m] (p : Pass m)

/-- A definition is entered from the document and left to it. -/
theorem restores_definition (definition : Definition) :
    Restores (Walk.definition p definition) [.document] (p.definition definition) := by
  rw [Walk.definition, Pass.definition, Head.path_eq]
  refine .within (.bind (restores_head p _ definition.head) fun head => ?_)
  exact .bind (restores_body p _ definition.body) fun body => restores_pure _

/-- Started with nothing entered, a walk does what the pass does, and in the end nothing is left
entered. -/
theorem restores_document (d : Document) : Restores (Walk.document p d) [] (p.document d) :=
  .within (.map (.mapM (restores_definition p) d.definitions) _)

/-- A walk with a pass without effects does what the pass does. -/
theorem run_document (p : Pass Id) (d : Document) :
    (Walk.document p d).run [] = (p.run d, []) :=
  restores_document p d

end Walk

end Refetch
