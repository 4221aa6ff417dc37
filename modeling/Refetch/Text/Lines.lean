import Refetch.Text.Blank

/-!
# Lines and bytes

Texts as lines, and measured in UTF-8 bytes. A line ends at a line feed, together with a
carriage return right before it; the last line needs no end, and nothing after the last line
feed is no line.
-/

namespace Refetch.Text

/-! ## Lines -/

/-- A finished line, from its characters in reverse. -/
def finishLine : List Char → List Char
  | '\r' :: line => line.reverse
  | line => line.reverse

/-- The lines still to come; `line` holds the current one's characters so far, in reverse. -/
def linesFrom (line : List Char) : List Char → List (List Char)
  | [] => if line.isEmpty then [] else [line.reverse]
  | '\n' :: rest => finishLine line :: linesFrom [] rest
  | c :: rest => linesFrom (c :: line) rest

/-- The lines of a text, without their ends. -/
def lines (text : List Char) : List (List Char) := linesFrom [] text

/-- A finished line has no other characters than the line had. -/
theorem finishLine_subset (line : List Char) : finishLine line ⊆ line := by
  intro c hc
  unfold finishLine at hc
  split at hc
  · exact List.mem_cons_of_mem _ (List.mem_reverse.mp hc)
  · exact List.mem_reverse.mp hc

theorem mem_of_mem_linesFrom {line text found : List Char} {c : Char}
    (hfound : found ∈ linesFrom line text) (hc : c ∈ found) : c ∈ line ∨ c ∈ text := by
  fun_induction linesFrom line text with
  | case1 line hempty => cases hfound
  | case2 line hempty =>
    obtain rfl := List.mem_singleton.mp hfound
    exact Or.inl (List.mem_reverse.mp hc)
  | case3 line rest ih =>
    rcases List.mem_cons.mp hfound with rfl | hlater
    · exact Or.inl (finishLine_subset line hc)
    · exact Or.inr (List.mem_cons_of_mem _ ((ih hlater).resolve_left List.not_mem_nil))
  | case4 line d rest hd ih =>
    rcases ih hfound with hmem | hmem
    · rcases List.mem_cons.mp hmem with rfl | hmem
      · exact Or.inr List.mem_cons_self
      · exact Or.inl hmem
    · exact Or.inr (List.mem_cons_of_mem _ hmem)

/-- The lines of a text have no other characters than the text. -/
theorem subset_of_mem_lines {text line : List Char} (h : line ∈ lines text) : line ⊆ text :=
  fun _ hc => (mem_of_mem_linesFrom h hc).resolve_left List.not_mem_nil

/-- Is every character blank? -/
def isBlankLine (line : List Char) : Bool := line.all isBlank

/-! ## Bytes -/

/-- The number of bytes of a text in UTF-8. -/
def byteLength (text : List Char) : Nat := text.foldr (fun c bytes => c.utf8Size + bytes) 0

@[simp] theorem byteLength_nil : byteLength [] = 0 := rfl

@[simp] theorem byteLength_cons (c : Char) (text : List Char) :
    byteLength (c :: text) = c.utf8Size + byteLength text := rfl

@[simp] theorem byteLength_append (s t : List Char) :
    byteLength (s ++ t) = byteLength s + byteLength t := by
  induction s with
  | nil => simp
  | cons c rest ih => rw [List.cons_append, byteLength_cons, byteLength_cons, ih, Nat.add_assoc]

/-- Every character takes a byte at least. -/
theorem byteLength_pos {text : List Char} (h : text ≠ []) : 0 < byteLength text := by
  obtain ⟨c, rest, rfl⟩ := List.exists_cons_of_ne_nil h
  have hpos := c.utf8Size_pos
  rw [byteLength_cons]
  omega

/-- Is every blank of a text a single byte, as spaces, tabs and line ends are? -/
def NarrowBlanks (text : List Char) : Prop := ∀ c ∈ text, isBlank c = true → c.utf8Size = 1

theorem NarrowBlanks.nil : NarrowBlanks [] := List.forall_mem_nil _

theorem NarrowBlanks.cons {c : Char} {text : List Char} (hc : isBlank c = true → c.utf8Size = 1)
    (h : NarrowBlanks text) : NarrowBlanks (c :: text) := List.forall_mem_cons.mpr ⟨hc, h⟩

theorem NarrowBlanks.subset {text part : List Char} (h : NarrowBlanks text) (hpart : part ⊆ text) :
    NarrowBlanks part := fun c hc => h c (hpart hc)

/-- Spaces are single bytes. -/
theorem narrowBlanks_of_spaces {text : List Char}
    (h : ∀ c ∈ text, isBlank c = true → c = ' ') : NarrowBlanks text := by
  intro c hc hblank
  rw [h c hc hblank]
  rfl

/-- A text has as many bytes as characters if each is a single byte. -/
theorem byteLength_eq_length {text : List Char} (h : ∀ c ∈ text, c.utf8Size = 1) :
    byteLength text = text.length := by
  induction text with
  | nil => rfl
  | cons c rest ih =>
    rw [List.forall_mem_cons] at h
    rw [byteLength_cons, h.1, ih h.2, List.length_cons, Nat.add_comm]

/-- The part of a text from a byte offset on, if a character starts there (or the text ends
there). -/
def fromByte? : List Char → Nat → Option (List Char)
  | text, 0 => some text
  | [], _ + 1 => none
  | c :: rest, offset => if c.utf8Size ≤ offset then fromByte? rest (offset - c.utf8Size) else none

/-- The parts of a text before and after a byte offset: what is cut off has that many bytes. -/
theorem fromByte?_eq_some_iff {text tail : List Char} {offset : Nat} :
    fromByte? text offset = some tail ↔
      ∃ front, text = front ++ tail ∧ byteLength front = offset := by
  induction text generalizing offset with
  | nil =>
    cases offset with
    | zero =>
      constructor
      · intro h
        exact ⟨[], by simpa [fromByte?] using h, rfl⟩
      · rintro ⟨front, h, _⟩
        have h' := List.nil_eq_append_iff.mp h
        rw [h'.2]
        rfl
    | succ n =>
      constructor
      · intro h
        simp [fromByte?] at h
      · rintro ⟨front, h, hn⟩
        have h' := List.nil_eq_append_iff.mp h
        rw [h'.1] at hn
        simp at hn
  | cons c rest ih =>
    have hpos : 0 < c.utf8Size := Char.utf8Size_pos c
    cases offset with
    | zero =>
      constructor
      · intro h
        exact ⟨[], by simpa [fromByte?] using h, rfl⟩
      · rintro ⟨front, h, hn⟩
        cases front with
        | nil => simpa [fromByte?] using h
        | cons d front =>
          have := Char.utf8Size_pos d
          simp at hn
          omega
    | succ n =>
      have hstep : fromByte? (c :: rest) (n + 1) =
          if c.utf8Size ≤ n + 1 then fromByte? rest (n + 1 - c.utf8Size) else none := rfl
      rw [hstep]
      split
      · rename_i hle
        rw [ih]
        constructor
        · rintro ⟨front, h, hn⟩
          exact ⟨c :: front, by rw [h]; rfl, by rw [byteLength_cons]; omega⟩
        · rintro ⟨front, h, hn⟩
          cases front with
          | nil => simp at hn
          | cons d front =>
            rw [List.cons_append, List.cons.injEq] at h
            rw [byteLength_cons, ← h.1] at hn
            exact ⟨front, h.2, by omega⟩
      · rename_i hle
        constructor
        · intro h
          cases h
        · rintro ⟨front, h, hn⟩
          cases front with
          | nil => simp at hn
          | cons d front =>
            rw [List.cons_append, List.cons.injEq] at h
            rw [byteLength_cons, ← h.1] at hn
            omega

end Refetch.Text
