import Refetch.Document.Literal

/-!
# The lexer

Reads the lexemes of a text one character at a time. A `Scanner` holds the place it has
reached, the lexemes found so far and a `Mode` saying what it is in the middle of; `step`
takes one character, `finish` the end of the text. Because a whole text is a fold of `step`,
what a scanner does with a concatenation is what it does with one part after the other
(`run_append`).

Between lexemes the reader skips blanks, commas, carriage returns, byte-order marks and
comments. A tab counts eight columns, a carriage return and a byte-order mark none. A comment
takes the line end that closes it along; one that the end of the text closes does not move
the place at all.

A lexeme that is malformed ends the reading at its start. So does a block text whose lines
cannot be cut where their common indentation ends, but that is a `Fault` of another kind.
-/

namespace Refetch

/-- What is wrong with a lexeme that cannot be read. -/
inductive Fault where
  /-- it is no lexeme -/
  | unreadable
  /-- it is a block text in which a character reaches over the end of the common indentation -/
  | ragged
  deriving DecidableEq, Repr

/-- What a scanner is in the middle of. Texts are held in reverse. -/
inductive Mode where
  /-- nothing: a new lexeme may start -/
  | between
  /-- a comment -/
  | comment
  /-- a name -/
  | name (start : Pos) (text : List Char)
  /-- a number -/
  | number (start : Pos) (text : List Char)
  /-- one dot, or two -/
  | dots (start : Pos) (two : Bool)
  /-- one quote, or two -/
  | quotes (start : Pos) (two : Bool)
  /-- a quoted text, perhaps right after a backslash that escapes -/
  | string (start : Pos) (escaped : Bool) (text : List Char)
  /-- a block text, after `run` quotes in a row; `held` if the first of them came right
  after a backslash, so that three of them do not close the text -/
  | block (start : Pos) (run : Nat) (held : Bool) (text : List Char)
  /-- a lexeme that cannot be read -/
  | malformed (start : Pos) (fault : Fault)
  deriving DecidableEq, Repr

/-- The state of reading a text. -/
structure Scanner where
  /-- the place reached -/
  pos : Pos
  /-- what is being read there -/
  mode : Mode
  /-- the lexemes so far, in reverse -/
  found : List Lexeme

/-- The outcome of reading a text. -/
structure Scan where
  /-- the lexemes, in order -/
  lexemes : List Lexeme
  /-- the end of the text, or the start of the lexeme that could not be read -/
  stop : Pos
  /-- what is wrong with that lexeme, if there is one -/
  fault? : Option Fault

/-- Was the text read to its end? -/
def Scan.complete (scan : Scan) : Bool := scan.fault?.isNone

/-- Is this a character at which a number ends? -/
def endsNumber (c : Char) : Bool :=
  c ∈ [' ', '\n', '\r', '\t', ',', '#', '!', '$', ':', '=', '@', '|', '&',
    '(', ')', '[', ']', '{', '}']

namespace Scanner

/-- A scanner before a text. -/
def start : Scanner := ⟨.first, .between, []⟩

/-- Records the lexeme that starts at `start`, or stops there if it is malformed. -/
def emit (s : Scanner) (start : Pos) : Option Token → Scanner
  | some token => { s with mode := .between, found := ⟨start, token⟩ :: s.found }
  | none => { s with mode := .malformed start .unreadable }

/-- Moves one column on and into a mode. -/
def into (s : Scanner) (mode : Mode) : Scanner := { s with pos := s.pos.right 1, mode }

/-- Takes a character between lexemes. -/
def begin (s : Scanner) (c : Char) : Scanner :=
  if c = '\uFEFF' || c = '\r' then s
  else if c = '\t' then { s with pos := s.pos.right 8 }
  else if c = '\n' then { s with pos := s.pos.nextLine }
  else if c = ' ' || c = ',' then { s with pos := s.pos.right 1 }
  else if c = '#' then { s with mode := .comment }
  else if c = '.' then s.into (.dots s.pos false)
  else if c = '"' then s.into (.quotes s.pos false)
  else if isNameStart c then s.into (.name s.pos [c])
  else if c.isDigit || c = '-' then s.into (.number s.pos [c])
  else match Punctuator.ofChar? c with
    | some mark => { s.emit s.pos (some (.punct mark)) with pos := s.pos.right 1 }
    | none => { s with mode := .malformed s.pos .unreadable }

/-- Takes a character that ends the lexeme before it and is not part of it. -/
def resume (s : Scanner) (c : Char) : Scanner :=
  match s.mode with
  | .malformed .. => s
  | _ => s.begin c

/-- The token of a name's characters. -/
def nameToken (text : List Char) : Token := .name (.ofList text.reverse)

/-- The token of a quoted text's characters. -/
def stringToken? (text : List Char) : Option Token :=
  (Literal.unescape? text.reverse).map fun value => .string (.ofList value)

/-- Takes the last quote of a block text that has this meaning. -/
def closeBlock (s : Scanner) (start : Pos) : Option (List Char) → Scanner
  | some value => { s.emit start (some (.string (.ofList value))) with pos := s.pos.right 1 }
  | none => { s with mode := .malformed start .ragged }

/-- Takes a character inside a block text. -/
def stepBlock (s : Scanner) (start : Pos) (run : Nat) (held : Bool) (text : List Char)
    (c : Char) : Scanner :=
  if c = '"' then
    let held := if run = 0 then text.head? == some '\\' else held
    if run < 2 then s.into (.block start (run + 1) held (c :: text))
    else if held then s.into (.block start 0 false (c :: text))
    else s.closeBlock start (Literal.blockValue? (text.drop 2).reverse)
  else if c = '\n' then
    { s with pos := s.pos.nextLine, mode := .block start 0 false (c :: text) }
  else
    s.into (.block start 0 false (c :: text))

/-- Takes one character. -/
def step (s : Scanner) (c : Char) : Scanner :=
  match s.mode with
  | .between => s.begin c
  | .comment =>
    if c = '\r' || c = '\n' then { s with pos := s.pos.nextLine, mode := .between } else s
  | .name start text =>
    if isNameChar c then s.into (.name start (c :: text))
    else (s.emit start (some (nameToken text))).resume c
  | .number start text =>
    if endsNumber c then (s.emit start (Literal.number? text.reverse)).resume c
    else s.into (.number start (c :: text))
  | .dots start two =>
    if c = '.' then
      if two then { s.emit start (some (.punct .ellipsis)) with pos := s.pos.right 1 }
      else s.into (.dots start true)
    else { s with mode := .malformed start .unreadable }
  | .quotes start two =>
    if c = '"' then
      if two then s.into (.block start 0 false []) else s.into (.quotes start true)
    else if two then (s.emit start (some (.string ""))).resume c
    else if c = '\n' then { s with mode := .malformed start .unreadable }
    else s.into (.string start (c = '\\') [c])
  | .string start escaped text =>
    if c = '\n' then { s with mode := .malformed start .unreadable }
    else if c = '"' && !escaped then
      { s.emit start (stringToken? text) with pos := s.pos.right 1 }
    else s.into (.string start (c = '\\' && !escaped) (c :: text))
  | .block start run held text => s.stepBlock start run held text c
  | .malformed .. => s

/-- Takes the end of the text: a lexeme that may end here does. -/
def close (s : Scanner) : Scanner :=
  match s.mode with
  | .between => s
  | .comment => { s with mode := .between }
  | .name start text => s.emit start (some (nameToken text))
  | .number start text => s.emit start (Literal.number? text.reverse)
  | .quotes start true => s.emit start (some (.string ""))
  | .dots start _ => s.emit start none
  | .quotes start false => s.emit start none
  | .string start _ _ => s.emit start none
  | .block start _ _ _ => s.emit start none
  | .malformed .. => s

/-- What a closed scanner has read. -/
def scan (s : Scanner) : Scan :=
  match s.mode with
  | .malformed start fault => ⟨s.found.reverse, start, some fault⟩
  | _ => ⟨s.found.reverse, s.pos, none⟩

/-- Takes a text. -/
def run (s : Scanner) (text : List Char) : Scanner := text.foldl step s

@[simp] theorem run_nil (s : Scanner) : s.run [] = s := rfl

@[simp] theorem run_cons (s : Scanner) (c : Char) (text : List Char) :
    s.run (c :: text) = (s.step c).run text := rfl

/-- A text taken in two parts is taken as a whole. -/
theorem run_append (s : Scanner) (front tail : List Char) :
    s.run (front ++ tail) = (s.run front).run tail := List.foldl_append

end Scanner

/-- Reads the lexemes of a text. -/
def Scan.ofChars (text : List Char) : Scan := (Scanner.start.run text).close.scan

end Refetch
