import Refetch.Pass.Walk
import Refetch.Recorded

/-!
# Visits

What a pass is asked on a walk, in the order it is asked. A pass may have a state of its own, by
which its answers depend on what it was asked before. Any such pass can be watched: the pass it
becomes decides as before and records each question with the answer to it (`Pass.watched`), and
walking with that one gives the sequence of questions about a whole document (`Pass.walk`,
`Pass.visits`).
-/

namespace Refetch

/-- A question to a pass. -/
inductive Visit where
  /-- whether a selection stays, and the answer -/
  | selection (item : Selection) (path : Path) (kept : Bool)
  /-- what a name becomes, and the answer -/
  | name (text : String) (path : Path) (renamed : String)
  deriving Inhabited

namespace Pass

variable {σ : Type}

/-- The pass that decides as `p` does and records every question. -/
def watched (p : Pass (StateM σ)) : Pass (StateT σ (Recorded Visit)) where
  keep path item state :=
    let (kept, next) := (p.keep path item).run state
    .note (.selection item path kept) (kept, next)
  rename path name state :=
    let (renamed, next) := (p.rename path name).run state
    .note (.name name path renamed) (renamed, next)

theorem run_keep_watched (p : Pass (StateM σ)) (path : Path) (item : Selection) (state : σ) :
    (p.watched.keep path item).run state =
      .note (.selection item path ((p.keep path item).run state).1)
        ((p.keep path item).run state) := rfl

theorem run_rename_watched (p : Pass (StateM σ)) (path : Path) (name : String) (state : σ) :
    (p.watched.rename path name).run state =
      .note (.name name path ((p.rename path name).run state).1)
        ((p.rename path name).run state) := rfl

/-- Walks a pass through a document, with nothing entered at first. What comes of it is the
document rebuilt, the nodes that have not been left and the pass's state; recorded is what the
pass was asked. -/
def walk (p : Pass (StateM σ)) (state : σ) (document : Document) :
    Recorded Visit ((Document × Path) × σ) :=
  ((Walk.document p.watched document).run []).run state

/-- A pass without effects as one that has a state and leaves it alone. -/
def stateless (p : Pass Id) : Pass (StateM Unit) where
  keep path item := pure (p.keep path item)
  rename path name := pure (p.rename path name)

/-- The questions that a pass without effects is asked about a document, in order. -/
def visits (p : Pass Id) (document : Document) : List Visit :=
  (p.stateless.walk () document).events

end Pass

end Refetch
