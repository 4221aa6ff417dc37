import Refetch.Text.Blank
import Refetch.Text.Graphic
import Refetch.Text.Mark

/-!
# Quoted texts in messages

How a text is shown inside a message: in double quotes, with escapes for quotes, backslashes
and every character that does not show by itself, which is written by its code point in
hexadecimal.

* `quote_of_printing` — a text of printing ASCII characters stands between its quotes as it is
-/

namespace Refetch.Text

/-- Letters that stand for nothing: they fill a place and show nothing in it. -/
def fillers : List Char := ['\u115f', '\u1160', '\u3164', '\uffa0']

/-- Does the character show by itself? Of the blank ones only the space does. -/
def isShown (c : Char) : Bool :=
  c = ' ' || isGraphic c && !isBlank c && !isExtendingMark c && !fillers.contains c

/-- A character written by its code point. -/
def codeEscape (c : Char) : List Char := ['\\', 'u', '{'] ++ Nat.toDigits 16 c.toNat ++ ['}']

/-- A character as it stands in a quoted text. -/
def quoteChar (c : Char) : List Char :=
  if c = '"' then ['\\', '"']
  else if c = '\\' then ['\\', '\\']
  else if c = '\n' then ['\\', 'n']
  else if c = '\r' then ['\\', 'r']
  else if c = '\t' then ['\\', 't']
  else if c = '\x00' then ['\\', '0']
  else if isShown c then [c]
  else codeEscape c

/-- A text in quotes. -/
def quote (text : String) : String :=
  .ofList ('"' :: text.toList.flatMap quoteChar ++ ['"'])

/-! ## Printing characters -/

section Printing

variable {c : Char} (hlow : 0x20 ≤ c.toNat) (hhigh : c.toNat ≤ 0x7e)

include hlow hhigh

theorem isShown_of_printing : isShown c = true := by
  rw [isShown, Bool.or_eq_true, decide_eq_true_eq]
  by_cases hspace : c = ' '
  · exact Or.inl hspace
  · right
    have hne : c.toNat ≠ ' '.toNat := fun h => hspace (Char.toNat_inj.mp h)
    have hblank : isBlank c = false := isBlank_of_printing (by simp at hne; omega) hhigh
    have hmark : isExtendingMark c = false := isExtendingMark_of_ascii (by omega)
    have hfiller : fillers.contains c = false := by
      rw [← Bool.not_eq_true, List.contains_iff_mem]
      intro hmem
      have hlarge : ∀ d ∈ fillers, 0x7e < d.toNat := by simp [fillers]
      exact absurd (hlarge c hmem) (by omega)
    rw [isGraphic_of_printing hlow hhigh, hblank, hmark, hfiller]
    rfl

/-- A printing character of ASCII stands for itself, but for quotes and backslashes. -/
theorem quoteChar_of_printing (hquote : c ≠ '"') (hescape : c ≠ '\\') : quoteChar c = [c] := by
  have hcontrol : ∀ d : Char, d.toNat < 0x20 → c ≠ d := by
    rintro d hd rfl
    omega
  rw [quoteChar, if_neg hquote, if_neg hescape, if_neg (hcontrol _ (by decide)),
    if_neg (hcontrol _ (by decide)), if_neg (hcontrol _ (by decide)),
    if_neg (hcontrol _ (by decide)), if_pos (isShown_of_printing hlow hhigh)]

end Printing

/-- A text of printing characters of ASCII that are neither quotes nor backslashes is quoted as it
is. -/
theorem quote_of_printing {text : String}
    (h : ∀ c ∈ text.toList, (0x20 ≤ c.toNat ∧ c.toNat ≤ 0x7e) ∧ c ≠ '"' ∧ c ≠ '\\') :
    quote text = "\"" ++ text ++ "\"" := by
  have hchars : text.toList.flatMap quoteChar = text.toList := by
    generalize text.toList = chars at h
    induction chars with
    | nil => rfl
    | cons c rest ih =>
      obtain ⟨⟨⟨hlow, hhigh⟩, hquote, hescape⟩, hrest⟩ := List.forall_mem_cons.mp h
      rw [List.flatMap_cons, quoteChar_of_printing hlow hhigh hquote hescape, ih hrest]
      rfl
  rw [quote, hchars, ← String.toList_inj]
  simp

end Refetch.Text
