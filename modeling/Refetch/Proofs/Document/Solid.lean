import Refetch.Document.Literal
import Refetch.Text.Blank

/-!
# Blanks in literals

A solid text holds no blank. Number literals are solid, and so are the escapes of a quoted text;
what else is between two quotes may be blank. So collapsing the blanks of a quoted text leaves
its escapes alone.

* `Literal.number?_solid` — a number literal is solid
* `Literal.unescape?_collapse` — if the escapes of a text can be resolved, so can those of the
  collapsed text
-/

namespace Refetch

open Text (isBlank collapseFrom_blank collapseFrom_other)

/-- Does a text hold no blank? -/
def Solid (text : List Char) : Prop := ∀ c ∈ text, isBlank c = false

section Solid

variable {c : Char} {text : List Char}

theorem solid_nil : Solid [] := fun _ h => absurd h List.not_mem_nil

theorem solid_cons : Solid (c :: text) ↔ isBlank c = false ∧ Solid text :=
  List.forall_mem_cons

/-- A printing character of ASCII is not blank. -/
theorem isBlank_of_between {low high : Char} (hlow : low ≤ c) (hhigh : c ≤ high)
    (hprinting : 0x21 ≤ low.toNat ∧ high.toNat ≤ 0x7e) : isBlank c = false := by
  have hfirst : low.toNat ≤ c.toNat := UInt32.le_iff_toNat_le.mp hlow
  have hlast : c.toNat ≤ high.toNat := UInt32.le_iff_toNat_le.mp hhigh
  exact Text.isBlank_of_printing (by omega) (by omega)

theorem isBlank_of_isDigit (h : c.isDigit = true) : isBlank c = false := by
  obtain ⟨hlow, hhigh⟩ := Char.isDigit_iff_toNat.mp h
  exact isBlank_of_between (UInt32.le_iff_toNat_le.mpr hlow) (UInt32.le_iff_toNat_le.mpr hhigh)
    (by decide)

/-- A letter or a digit is not blank. -/
theorem isBlank_of_isAlphanum (h : c.isAlphanum = true) : isBlank c = false := by
  have hclasses : ((c.isUpper || c.isLower) || c.isDigit) = true := h
  rw [Bool.or_eq_true, Bool.or_eq_true] at hclasses
  obtain (hupper | hlower) | hdigit := hclasses
  · obtain ⟨hlow, hhigh⟩ : 'A' ≤ c ∧ c ≤ 'Z' := of_decide_eq_true hupper
    exact isBlank_of_between hlow hhigh (by decide)
  · obtain ⟨hlow, hhigh⟩ := Bool.and_eq_true_iff.mp hlower
    have hlow : 'a' ≤ c := of_decide_eq_true hlow
    have hhigh : c ≤ 'z' := of_decide_eq_true hhigh
    exact isBlank_of_between hlow hhigh (by decide)
  · exact isBlank_of_isDigit hdigit

theorem solid_of_all_isDigit (h : text.all Char.isDigit = true) : Solid text :=
  fun c hc => isBlank_of_isDigit (List.all_eq_true.mp h c hc)

end Solid

namespace Literal

variable {text digits : List Char}

/-! ## Numbers -/

/-- A number without a sign is written without blanks. -/
theorem isPlainNat_solid (h : isPlainNat text = true) : Solid text := by
  unfold isPlainNat at h
  split at h
  · cases h
  · exact solid_cons.mpr ⟨by decide, solid_nil⟩
  · simp only [Bool.and_eq_true] at h
    exact solid_cons.mpr ⟨isBlank_of_isDigit h.1.1, solid_of_all_isDigit h.2⟩

theorem splitSign_solid (h : Solid (splitSign text).2) : Solid text := by
  unfold splitSign at h
  split at h
  · exact solid_cons.mpr ⟨by decide, h⟩
  · exact h

/-- Whatever reads as an integer is written without blanks. -/
theorem int?_solid {n : Int} (h : int? text = some n) : Solid text := by
  simp only [int?] at h
  split at h
  · exact splitSign_solid (isPlainNat_solid ‹_›)
  · cases h

theorem exponent?_solid {n : Int} (h : exponent? digits = some n) : Solid digits := by
  unfold exponent? at h
  split at h
  · split at h
    · rename_i hdigits
      rw [Bool.and_eq_true] at hdigits
      exact solid_cons.mpr ⟨by decide, solid_of_all_isDigit hdigits.2⟩
    · cases h
  · split at h
    · rename_i hdigits
      rw [Bool.and_eq_true] at hdigits
      exact solid_cons.mpr ⟨by decide, solid_of_all_isDigit hdigits.2⟩
    · cases h
  · rename_i c rest _ _
    split at h
    · rename_i hdigits
      simp only [Bool.and_eq_true, decide_eq_true_eq] at hdigits
      obtain ⟨⟨hlow, hhigh⟩, hrest⟩ := hdigits
      have hc : isBlank c = false := isBlank_of_between hlow hhigh (by decide)
      exact solid_cons.mpr ⟨hc, solid_of_all_isDigit hrest⟩
    · cases h
  · cases h

/-- A text is solid if its parts are, before and after the character at which it is split. -/
theorem solid_of_takeWhile {p : Char → Bool} (hmark : ∀ c, p c = false → isBlank c = false)
    (hfront : Solid (text.takeWhile p))
    (htail : ∀ mark rest, text.dropWhile p = mark :: rest → Solid rest) : Solid text := by
  induction text with
  | nil => exact solid_nil
  | cons c rest ih =>
    cases hc : p c with
    | true =>
      rw [List.takeWhile_cons_of_pos hc, solid_cons] at hfront
      rw [List.dropWhile_cons_of_pos hc] at htail
      exact solid_cons.mpr ⟨hfront.1, ih hfront.2 htail⟩
    | false =>
      rw [List.dropWhile_cons_of_neg (by simp [hc])] at htail
      exact solid_cons.mpr ⟨hmark c hc, htail c rest rfl⟩

theorem float?_solid {x : Float} (h : float? text = some x) : Solid text := by
  let isMark := fun c : Char => c == 'e' || c == 'E'
  let number := (splitSign text).2.takeWhile (!isMark ·)
  -- what reading asks of the parts around the exponent's letter and the point
  have hparts : isPlainNat (number.takeWhile (· != '.')) = true ∧
      (∀ mark digits, number.dropWhile (· != '.') = mark :: digits →
        digits.all Char.isDigit = true) ∧
      ∀ mark digits, (splitSign text).2.dropWhile (!isMark ·) = mark :: digits →
        ∃ n, exponent? digits = some n := by
    simp only [float?, Option.bind_eq_bind] at h
    rcases hexponent : (splitSign text).2.dropWhile (!isMark ·) with _ | ⟨mark, digits⟩ <;>
      rcases hplaces : number.dropWhile (· != '.') with _ | ⟨point, places⟩ <;>
      simp only [number, isMark] at hexponent hplaces <;>
      simp only [hexponent, hplaces, Option.bind_some, Option.bind_none,
        Option.bind_eq_some_iff, Option.ite_none_right_eq_some, Bool.and_eq_true] at h
    · exact ⟨h.1, by simp, by simp⟩
    · obtain ⟨⟨-, hdigits⟩, hwhole, -⟩ := h
      exact ⟨hwhole, by simpa using hdigits, by simp⟩
    · obtain ⟨n, hn, hwhole, -⟩ := h
      exact ⟨hwhole, by simp, by simp [hn]⟩
    · obtain ⟨n, hn, ⟨-, hdigits⟩, hwhole, -⟩ := h
      exact ⟨hwhole, by simpa using hdigits, by simp [hn]⟩
  obtain ⟨hwhole, hplaces, hexponent⟩ := hparts
  have hmark : ∀ c, (!isMark c) = false → isBlank c = false := by
    intro c hc
    simp only [isMark, Bool.not_eq_false', Bool.or_eq_true, beq_iff_eq] at hc
    rcases hc with rfl | rfl <;> decide
  have hpoint : ∀ c, (c != '.') = false → isBlank c = false := by
    intro c hc
    obtain rfl := bne_eq_false_iff_eq.mp hc
    decide
  have hnumber : Solid number := solid_of_takeWhile hpoint (isPlainNat_solid hwhole)
    fun mark rest heq => solid_of_all_isDigit (hplaces mark rest heq)
  refine splitSign_solid (solid_of_takeWhile hmark hnumber fun mark rest heq => ?_)
  obtain ⟨n, hn⟩ := hexponent mark rest heq
  exact exponent?_solid hn

/-- A number that can be read is an integer or a float. -/
theorem eq_of_number? {token : Token} (h : number? text = some token) :
    (∃ n, token = .int n) ∨ ∃ x, token = .float x := by
  rw [number?] at h
  split at h
  · obtain ⟨x, -, rfl⟩ := Option.map_eq_some_iff.mp h
    exact Or.inr ⟨x, rfl⟩
  · obtain ⟨n, -, rfl⟩ := Option.map_eq_some_iff.mp h
    exact Or.inl ⟨n, rfl⟩

/-- A number literal holds no blank. -/
theorem number?_solid {token : Token} (h : number? text = some token) : Solid text := by
  rw [number?] at h
  split at h
  · obtain ⟨x, hx, -⟩ := Option.map_eq_some_iff.mp h
    exact float?_solid hx
  · obtain ⟨n, hn, -⟩ := Option.map_eq_some_iff.mp h
    exact int?_solid hn

/-! ## Quoted texts -/

theorem hexValue?_solid {c : Char} {n : Nat} (h : Text.hexValue? c = some n) :
    isBlank c = false := by
  unfold Text.hexValue? at h
  split at h
  · exact isBlank_of_isDigit ‹_›
  · split at h
    · rename_i hc
      rw [Bool.and_eq_true, decide_eq_true_eq, decide_eq_true_eq] at hc
      exact isBlank_of_between hc.1 hc.2 (by decide)
    · split at h
      · rename_i hc
        rw [Bool.and_eq_true, decide_eq_true_eq, decide_eq_true_eq] at hc
        exact isBlank_of_between hc.1 hc.2 (by decide)
      · cases h

theorem hexNumber?_solid {n : Nat} (h : Text.hexNumber? digits = some n) : Solid digits := by
  have hfold : ∀ (digits : List Char) (m : Nat),
      digits.foldlM (fun n c => (Text.hexValue? c).map (16 * n + ·)) m = some n →
        Solid digits := by
    intro digits
    induction digits with
    | nil => exact fun _ _ => solid_nil
    | cons c rest ih =>
      intro m h
      rw [List.foldlM_cons] at h
      obtain ⟨k, hk, hrest⟩ := Option.bind_eq_some_iff.mp h
      obtain ⟨value, hvalue, -⟩ := Option.map_eq_some_iff.mp hk
      exact solid_cons.mpr ⟨hexValue?_solid hvalue, ih k hrest⟩
  exact hfold digits 0 h

/-- The digits are read first, with or without the plus, and the character is made of them. -/
theorem codePoint?_eq_bind (digits : List Char) : ∃ character : Nat → Option Char,
    codePoint? digits = match digits with
      | '+' :: rest => (Text.hexNumber? rest).bind character
      | _ => (Text.hexNumber? digits).bind character :=
  ⟨_, rfl⟩

theorem codePoint?_solid {c : Char} (h : codePoint? digits = some c) : Solid digits := by
  obtain ⟨character, heq⟩ := codePoint?_eq_bind digits
  rw [heq] at h
  split at h
  · obtain ⟨n, hn, -⟩ := Option.bind_eq_some_iff.mp h
    exact solid_cons.mpr ⟨by decide, hexNumber?_solid hn⟩
  · obtain ⟨n, hn, -⟩ := Option.bind_eq_some_iff.mp h
    exact hexNumber?_solid hn

/-- A text without blanks comes through collapsing as it is and ends the run before it. -/
theorem collapseFrom_solid_append {inRun : Bool} {front rest : List Char} (h : Solid front)
    (hne : front ≠ []) :
    Text.collapseFrom inRun (front ++ rest) = front ++ Text.collapseFrom false rest := by
  induction front generalizing inRun with
  | nil => exact absurd rfl hne
  | cons c front ih =>
    obtain ⟨hc, hfront⟩ := solid_cons.mp h
    rw [List.cons_append, collapseFrom_other hc]
    cases front with
    | nil => rfl
    | cons d front => rw [ih hfront (List.cons_ne_nil _ _)]; rfl

theorem unescape?_cons_of_ne {c : Char} {rest : List Char} (hplain : c ≠ '\\') :
    unescape? (c :: rest) = (unescape? rest).map (c :: ·) := by
  rw [unescape?] <;> simp [hplain]

/-- An escape of one character stays as it is, and so does what follows it. -/
theorem unescape?_escape {c : Char} {rest collapsed : List Char} (inRun : Bool)
    (hc : c ∈ ['"', '\\', '/', 'b', 'f', 'n', 'r', 't'])
    (hrest : unescape? (Text.collapseFrom false rest) = some collapsed) :
    ∃ whole, unescape? (Text.collapseFrom inRun ('\\' :: c :: rest)) = some whole := by
  simp only [List.mem_cons, List.not_mem_nil, or_false] at hc
  have hblank : isBlank c = false := by
    rcases hc with rfl | rfl | rfl | rfl | rfl | rfl | rfl | rfl <;> decide
  have hsolid : Solid ['\\', c] :=
    solid_cons.mpr ⟨by decide, solid_cons.mpr ⟨hblank, solid_nil⟩⟩
  have hcollapse : Text.collapseFrom inRun ('\\' :: c :: rest) =
      '\\' :: c :: Text.collapseFrom false rest :=
    collapseFrom_solid_append hsolid (List.cons_ne_nil _ _)
  rw [hcollapse]
  rcases hc with rfl | rfl | rfl | rfl | rfl | rfl | rfl | rfl <;>
    simp [unescape?, hrest]

/-- If the escapes of a text can be resolved, so can those of the text with its blanks
collapsed: an escape holds none. -/
theorem unescape?_collapse {raw value : List Char} (inRun : Bool)
    (h : unescape? raw = some value) :
    ∃ collapsed, unescape? (Text.collapseFrom inRun raw) = some collapsed := by
  fun_induction unescape? raw generalizing inRun value with
  | case1 => exact ⟨[], rfl⟩
  | case2 a b c d rest ih =>
    obtain ⟨resolved, hresolved, h⟩ := Option.bind_eq_some_iff.mp h
    obtain ⟨inner, hinner, -⟩ := Option.bind_eq_some_iff.mp h
    obtain ⟨collapsed, hcollapsed⟩ := ih false hinner
    have hsolid : Solid ['\\', 'u', a, b, c, d] :=
      solid_cons.mpr ⟨by decide, solid_cons.mpr ⟨by decide, codePoint?_solid hresolved⟩⟩
    have hcollapse : Text.collapseFrom inRun ('\\' :: 'u' :: a :: b :: c :: d :: rest) =
        '\\' :: 'u' :: a :: b :: c :: d :: Text.collapseFrom false rest :=
      collapseFrom_solid_append hsolid (List.cons_ne_nil _ _)
    rw [hcollapse]
    exact ⟨resolved :: collapsed, by simp [unescape?, hresolved, hcollapsed]⟩
  | case3 rest | case4 rest | case5 rest | case6 rest | case7 rest | case8 rest | case9 rest
  | case10 rest =>
    rename_i ih
    obtain ⟨_, -, h⟩ := Option.bind_eq_some_iff.mp h
    obtain ⟨inner, hinner, -⟩ := Option.bind_eq_some_iff.mp h
    obtain ⟨collapsed, hcollapsed⟩ := ih false hinner
    exact unescape?_escape inRun (by decide) hcollapsed
  | case11 => cases h
  | case12 => cases h
  | case13 c rest hunicode hescape hend ih =>
    -- the one case in which the character may be blank
    obtain ⟨inner, hinner, -⟩ := Option.map_eq_some_iff.mp h
    have hplain : c ≠ '\\' := by
      rintro rfl
      cases rest with
      | nil => exact hend rfl rfl
      | cons d rest => exact hescape d rest rfl rfl
    cases hc : isBlank c with
    | true =>
      rw [collapseFrom_blank hc]
      obtain ⟨collapsed, hcollapsed⟩ := ih true hinner
      cases inRun with
      | true => exact ⟨collapsed, hcollapsed⟩
      | false =>
        refine ⟨' ' :: collapsed, ?_⟩
        rw [if_neg Bool.false_ne_true, unescape?_cons_of_ne (by decide), hcollapsed]
        rfl
    | false =>
      rw [collapseFrom_other hc]
      obtain ⟨collapsed, hcollapsed⟩ := ih false hinner
      exact ⟨c :: collapsed, by rw [unescape?_cons_of_ne hplain, hcollapsed]; rfl⟩

end Literal

end Refetch
