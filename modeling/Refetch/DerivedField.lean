import Refetch.Text.Lines
import Refetch.Pass.Basic

/-!
# Derived fields

Fields that an image build step adds to a page's query, told by the end of their names. The
live interface cannot resolve them, so they are stripped from a query at every depth.
-/

namespace Refetch

/-- How derived fields are told by their names: the name ends with `suffix`, and it is not
that of a nested child, which is at least one character followed by `nestedSuffix`. -/
structure DerivedRule where
  /-- what the name of a derived field ends with; empty, and no field is derived -/
  suffix : String
  /-- what the name of a nested child ends with; its first character may have either case -/
  nestedSuffix : String
  deriving DecidableEq, Repr

namespace DerivedRule

/-- The rule for the image step's usual names. -/
protected def default : DerivedRule := ⟨"Sharp", "childImageSharp"⟩

instance : Inhabited DerivedRule := ⟨.default⟩

/-- Are two characters equal up to the case of ASCII letters? -/
def sameUpToCase (c d : Char) : Bool := c.toLower = d.toLower

/-- Is the name that of a nested child? The suffix is looked for at the byte offset where it
must start, which may lie inside a character: then the name does not end with it. -/
def isNestedChild (rule : DerivedRule) (name : String) : Bool :=
  let suffix := rule.nestedSuffix.toList
  let length := Text.byteLength name.toList
  let start := length - Text.byteLength suffix
  start ≠ 0 &&
    match Text.fromByte? name.toList start, suffix with
    | some (c :: tail), s :: rest => sameUpToCase c s && tail = rest
    | _, _ => false

/-- Is a field of this name derived? -/
def isDerived (rule : DerivedRule) (name : String) : Bool :=
  rule.suffix ≠ "" && rule.suffix.toList.isSuffixOf name.toList && !rule.isNestedChild name

/-- Does a selection stay? Only derived fields go; spreads and fragments in place stay. -/
def retains (rule : DerivedRule) : Selection → Bool
  | .field head _ _ => !rule.isDerived head.name
  | _ => true

/-- The pass that strips derived fields. -/
def stripping {m : Type → Type} [Monad m] (rule : DerivedRule) : Pass m :=
  { Pass.identity with keep := fun _ item => pure (rule.retains item) }

end DerivedRule

/-- The document without its derived fields. -/
def Document.strip (document : Document) (rule : DerivedRule) : Document :=
  rule.stripping.run document

end Refetch
