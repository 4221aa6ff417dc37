import Refetch.Document.Basic

/-!
# Comparing documents

Are two documents the same, positions and spans included? Floats are compared as numbers, so
a zero is the same with either sign.
-/

namespace Refetch

mutual

/-- Are two values the same? -/
def Value.same : Value → Value → Bool
  | .var a, .var b => a == b
  | .int a, .int b => a == b
  | .float a, .float b => a == b
  | .string a, .string b => a == b
  | .boolean a, .boolean b => a == b
  | .null, .null => true
  | .enum a, .enum b => a == b
  | .list a, .list b => sameItems a b
  | .object a, .object b => sameMembers a b
  | _, _ => false

/-- Are two lists of values the same? -/
def sameItems : List Value → List Value → Bool
  | [], [] => true
  | a :: as, b :: bs => a.same b && sameItems as bs
  | _, _ => false

/-- Are two lists of members or arguments the same? -/
def sameMembers : List (String × Value) → List (String × Value) → Bool
  | [], [] => true
  | (k, a) :: as, (l, b) :: bs => k == l && a.same b && sameMembers as bs
  | _, _ => false

end

/-- Are two directives the same? -/
def Directive.same (a b : Directive) : Bool :=
  a.pos == b.pos && a.name == b.name && sameMembers a.args b.args

/-- Do two lists have the same length, with items that are the same one by one? -/
def sameList {α : Type} (same : α → α → Bool) : List α → List α → Bool
  | [], [] => true
  | a :: as, b :: bs => same a b && sameList same as bs
  | _, _ => false

/-- Are two defaults the same, or both missing? -/
def sameDefault : Option Value → Option Value → Bool
  | none, none => true
  | some a, some b => a.same b
  | _, _ => false

/-- Are two variables declared the same? -/
def VariableDef.same (a b : VariableDef) : Bool :=
  a.pos == b.pos && a.name == b.name && a.type == b.type && sameDefault a.default? b.default?

/-- Do two fields say the same before their selections? -/
def FieldHead.same (a b : FieldHead) : Bool :=
  a.pos == b.pos && a.alias? == b.alias? && a.name == b.name && sameMembers a.args b.args &&
    sameList Directive.same a.dirs b.dirs

mutual

/-- Are two selections the same? -/
def Selection.same : Selection → Selection → Bool
  | .field a s as, .field b t bs => a.same b && s == t && sameSelections as bs
  | .spread p a ds, .spread q b es => p == q && a == b && sameList Directive.same ds es
  | .inline p a ds s as, .inline q b es t bs =>
    p == q && a == b && sameList Directive.same ds es && s == t && sameSelections as bs
  | _, _ => false

/-- Are two lists of selections the same? -/
def sameSelections : List Selection → List Selection → Bool
  | [], [] => true
  | a :: as, b :: bs => a.same b && sameSelections as bs
  | _, _ => false

end

/-- Do two definitions say the same before their selections? -/
def Head.same : Head → Head → Bool
  | .bare, .bare => true
  | .operation k p a vs ds, .operation l q b ws es =>
    k == l && p == q && a == b && sameList VariableDef.same vs ws &&
      sameList Directive.same ds es
  | .fragment p a t ds, .fragment q b u es =>
    p == q && a == b && t == u && sameList Directive.same ds es
  | _, _ => false

/-- Are two definitions the same? -/
def Definition.same (a b : Definition) : Bool :=
  a.head.same b.head && a.body.span == b.body.span && sameSelections a.body.items b.body.items

/-- Are two documents the same? -/
def Document.same (a b : Document) : Bool :=
  sameList Definition.same a.definitions b.definitions

end Refetch
