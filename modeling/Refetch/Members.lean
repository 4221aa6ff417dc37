/-!
# Members sorted by key

Objects hold their members in the order of their keys, by code point, and one member a key:
of several members of one key the last is kept.
-/

namespace Refetch

variable {α : Type}

/-- Puts a member into sorted ones, in place of an older one of its key. -/
def insertMember (key : String) (value : α) : List (String × α) → List (String × α)
  | [] => [(key, value)]
  | (other, old) :: rest =>
    if key = other then (key, value) :: rest
    else if key < other then (key, value) :: (other, old) :: rest
    else (other, old) :: insertMember key value rest

/-- Members in the order of their keys. -/
def sortMembers (members : List (String × α)) : List (String × α) :=
  members.foldl (fun sorted member => insertMember member.1 member.2 sorted) []

/-- The value of a key. -/
def member? (key : String) (members : List (String × α)) : Option α :=
  (members.find? (·.1 = key)).map (·.2)

end Refetch
