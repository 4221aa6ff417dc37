import Refetch.Pass.Basic

/-!
# Type prefixes

A build's schema puts a namespace in front of its type names (`NS_Page`) where the live one
has none (`Page`). The marker of a prefix is the prefix with an underscore; it is taken off
the front of type names, and of nothing but type names, for as long as it is there and
something is left. So a name without the marker stays as it is, and taking off twice is
taking off once.
-/

namespace Refetch

/-- What is taken off the front of type names; nothing if it is empty. -/
structure TypePrefix where
  /-- the prefix with its underscore -/
  marker : List Char
  deriving DecidableEq, Repr, Inhabited

namespace TypePrefix

/-- The marker of a prefix: no prefix has none. -/
def ofName (name : String) : TypePrefix :=
  if name = "" then ⟨[]⟩ else ⟨name.toList ++ ['_']⟩

/-- The marker of no prefix. -/
def none : TypePrefix := ⟨[]⟩

@[simp] theorem ofName_empty : ofName "" = none := rfl

/-- What is left of a list after a front that it starts with. -/
def without? (front : List Char) (text : List Char) : Option (List Char) :=
  match front, text with
  | [], text => some text
  | _ :: _, [] => Option.none
  | a :: front, b :: text => if a = b then without? front text else Option.none

theorem without?_eq_some_iff {front text rest : List Char} :
    without? front text = some rest ↔ text = front ++ rest := by
  induction front generalizing text with
  | nil => simp [without?]
  | cons a front ih =>
    cases text with
    | nil => simp [without?]
    | cons b text =>
      rw [without?]
      by_cases h : a = b
      · rw [if_pos h, ih, h]
        simp
      · rw [if_neg h]
        constructor
        · intro he
          cases he
        · intro he
          rw [List.cons_append, List.cons.injEq] at he
          exact absurd he.1.symm h

theorem length_lt_of_without? {front text rest : List Char} (hne : front ≠ [])
    (h : without? front text = some rest) : rest.length < text.length := by
  rw [without?_eq_some_iff.mp h, List.length_append]
  have := List.length_pos_iff.mpr hne
  omega

/-- Takes the marker off the front of a name for as long as something is left. A marker is
not empty, so every step leaves less. -/
def dropMarker (marker : List Char) (name : List Char) : List Char :=
  if hm : marker = [] then name
  else
    match h : without? marker name with
    | some (c :: rest) =>
      have := length_lt_of_without? hm h
      dropMarker marker (c :: rest)
    | _ => name
termination_by name.length

/-- A type name without the prefix. -/
def normalize (p : TypePrefix) (name : String) : String :=
  .ofList (dropMarker p.marker name.toList)

/-- The pass that takes the prefix off type names. -/
def normalizing {m : Type → Type} [Monad m] (p : TypePrefix) : Pass m :=
  { Pass.identity with
    rename := fun path name => pure <| match path with
      | .namedType :: _ => p.normalize name
      | _ => name }

end TypePrefix

/-- The document with a prefix taken off its type names. -/
def Document.normalize (document : Document) (p : TypePrefix) : Document :=
  p.normalizing.run document

end Refetch
