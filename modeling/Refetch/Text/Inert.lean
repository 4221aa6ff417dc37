import Refetch.Text.Quoted

/-!
# Inert texts

A text that comes from outside may hold controls that a terminal obeys: it could move the
cursor, change colours or ring the bell. Such a control is written by its code instead. Line
feeds, tabs and the other controls stay as they are.
-/

namespace Refetch.Text

/-- The controls below `\x80` that are written by their codes: bell, backspace, form feed,
escape and delete. -/
def terminalControls : List Char := ['\x07', '\x08', '\x0c', '\x1b', '\x7f']

/-- A character as it stands in an inert text. -/
def inertChar (c : Char) : List Char :=
  if terminalControls.contains c then
    ['\\', 'x', Nat.digitChar (c.toNat / 16), Nat.digitChar (c.toNat % 16)]
  else if 0x80 ≤ c.toNat && c.toNat ≤ 0x9f then codeEscape c
  else [c]

/-- A text without controls that a terminal obeys. -/
def inert (text : String) : String := .ofList (text.toList.flatMap inertChar)

end Refetch.Text
