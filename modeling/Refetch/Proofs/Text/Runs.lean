import Mathlib.Data.List.SplitBy
import Refetch.Text.Blank

/-!
# Runs of blanks

A text is a row of runs, by turns of blanks and of other characters; the latter are its words.
Collapsing keeps the words and makes every run of blanks a single space, so it forgets which
blanks and how many of them stood in a run, and nothing else. Whether a blank is the first of its
run depends on the character before it. That is all that has to be known of a text to collapse
another one behind it.

* `Text.collapseFrom_append` — how a text collapses behind another one
* `Text.collapseChars_eq_flatMap` — a collapsed text, run by run
* `Text.collapse_lawful` — what collapsing does to one text and to two
-/

namespace Refetch.Text

variable {inRun blank : Bool} {text front tail run : List Char}

/-! ## A text behind another -/

/-- Is the last character of a text blank? If there is none, `inRun` says so of the one before. -/
def blankAfter (inRun : Bool) : List Char → Bool
  | [] => inRun
  | c :: rest => blankAfter (isBlank c) rest

/-- Is the first character of a text blank? -/
def startsBlank (text : List Char) : Bool := text.head?.any isBlank

/-- Is the last character of a text blank? -/
def endsBlank (text : List Char) : Bool := text.getLast?.any isBlank

/-- After a text only its last character counts, and if it has none, what came before. -/
theorem blankAfter_eq : blankAfter inRun text = (text.getLast?.map isBlank).getD inRun := by
  induction text generalizing inRun with
  | nil => rfl
  | cons c rest ih =>
    rw [blankAfter, ih, List.getLast?_cons]
    cases rest.getLast? <;> rfl

theorem blankAfter_false : blankAfter false text = endsBlank text := by
  rw [blankAfter_eq, endsBlank]
  cases text.getLast? <;> rfl

/-- A text collapses behind another as after the last character of that. -/
theorem collapseFrom_append :
    collapseFrom inRun (front ++ tail) =
      collapseFrom inRun front ++ collapseFrom (blankAfter inRun front) tail := by
  induction front generalizing inRun with
  | nil => rfl
  | cons c rest ih =>
    rw [List.cons_append, blankAfter]
    cases hc : isBlank c with
    | true =>
      rw [collapseFrom_blank hc, collapseFrom_blank hc, ih]
      cases inRun <;> rfl
    | false => rw [collapseFrom_other hc, collapseFrom_other hc, ih, List.cons_append]

/-- Outside of a run a text that starts with a blank is collapsed to a space and what is left inside
the run. -/
theorem collapseFrom_of_startsBlank (h : startsBlank text = true) :
    collapseFrom false text = ' ' :: collapseFrom true text := by
  cases text with
  | nil => cases h
  | cons c rest =>
    have hc : isBlank c = true := h
    rw [collapseFrom_blank hc, collapseFrom_blank hc]
    rfl

/-- Without a blank in front it does not matter what the character before is. -/
theorem collapseFrom_of_not_startsBlank (h : startsBlank text = false) :
    collapseFrom inRun text = collapseFrom false text := by
  cases text with
  | nil => rfl
  | cons c rest =>
    have hc : isBlank c = false := h
    rw [collapseFrom_other hc, collapseFrom_other hc]

/-- Collapsing first and then once more, behind another text, comes to collapsing there. -/
theorem collapseFrom_collapseChars :
    collapseFrom inRun (collapseChars text) = collapseFrom inRun text := by
  rw [collapseChars]
  cases inRun with
  | false => exact collapseFrom_idem text false
  | true =>
    cases hstart : startsBlank text with
    | true =>
      rw [collapseFrom_of_startsBlank hstart, collapseFrom_blank isBlank_space]
      exact collapseFrom_idem text true
    | false =>
      rw [← collapseFrom_of_not_startsBlank hstart]
      exact collapseFrom_idem text true

/-! ## What is left at the ends -/

/-- A text ends in a blank after collapsing if it did before. -/
theorem blankAfter_collapseFrom :
    blankAfter inRun (collapseFrom inRun text) = blankAfter inRun text := by
  induction text generalizing inRun with
  | nil => rfl
  | cons c rest ih =>
    rw [blankAfter]
    cases hc : isBlank c with
    | true =>
      rw [collapseFrom_blank hc]
      cases inRun with
      | true => exact ih
      | false => exact ih
    | false =>
      rw [collapseFrom_other hc, blankAfter, hc, ih]

theorem endsBlank_collapseChars : endsBlank (collapseChars text) = endsBlank text := by
  rw [← blankAfter_false, ← blankAfter_false, collapseChars, blankAfter_collapseFrom]

theorem startsBlank_collapseChars : startsBlank (collapseChars text) = startsBlank text := by
  cases text with
  | nil => rfl
  | cons c rest =>
    rw [collapseChars]
    cases hc : isBlank c with
    | true => simp [collapseFrom_blank hc, startsBlank, hc]
    | false => simp [collapseFrom_other hc, startsBlank, hc]

/-- A collapsed text starts with a space when the text started with a blank. -/
theorem head?_collapseChars_iff :
    (collapseChars text).head? = some ' ' ↔ startsBlank text = true := by
  rw [← startsBlank_collapseChars, startsBlank, Option.any_eq_true]
  constructor
  · intro h
    exact ⟨' ', h, isBlank_space⟩
  · rintro ⟨c, hhead, hc⟩
    rw [hhead, eq_space_of_mem_collapseChars (List.mem_of_mem_head? hhead) hc]

/-- A collapsed text ends with a space when the text ended with a blank. -/
theorem getLast?_collapseChars_iff :
    (collapseChars text).getLast? = some ' ' ↔ endsBlank text = true := by
  rw [← endsBlank_collapseChars, endsBlank, Option.any_eq_true]
  constructor
  · intro h
    exact ⟨' ', h, isBlank_space⟩
  · rintro ⟨c, hlast, hc⟩
    rw [hlast, eq_space_of_mem_collapseChars (List.mem_of_mem_getLast? hlast) hc]

/-- Collapsing never makes a text longer. -/
theorem length_collapseFrom_le : (collapseFrom inRun text).length ≤ text.length := by
  induction text generalizing inRun with
  | nil => exact Nat.le_refl _
  | cons c rest ih =>
    cases hc : isBlank c with
    | true =>
      rw [collapseFrom_blank hc]
      cases inRun with
      | true => exact Nat.le_succ_of_le ih
      | false => exact Nat.succ_le_succ ih
    | false =>
      rw [collapseFrom_other hc]
      exact Nat.succ_le_succ ih

/-- Two spaces in a row are not left as they are, but a collapsed text is. -/
theorem collapseChars_ne_two_spaces : collapseChars text ≠ front ++ ' ' :: ' ' :: tail := by
  intro h
  have hidem : collapseChars (collapseChars text) = collapseChars text := collapseFrom_idem text _
  rw [h] at hidem
  have htwo : collapseFrom (blankAfter false front) (' ' :: ' ' :: tail) =
      collapseFrom (blankAfter false front) (' ' :: tail) := by
    cases blankAfter false front with
    | true => rw [collapseFrom_blank isBlank_space, if_pos rfl]
    | false =>
      rw [collapseFrom_blank isBlank_space, collapseFrom_blank isBlank_space,
        collapseFrom_blank isBlank_space]
      rfl
  have hlength := congrArg List.length hidem
  rw [collapseChars, collapseFrom_append, htwo, ← collapseFrom_append] at hlength
  have hle : (collapseFrom false (front ++ ' ' :: tail)).length ≤ (front ++ ' ' :: tail).length :=
    length_collapseFrom_le
  simp only [List.length_append, List.length_cons] at hlength hle
  omega

/-! ## Runs -/

/-- A text in runs of blanks and runs of other characters, as long as they come. -/
def runs (text : List Char) : List (List Char) :=
  text.splitBy fun c d => isBlank c == isBlank d

/-- The words of a text: its runs of characters that are not blank. -/
def words (text : List Char) : List (List Char) :=
  (runs text).filter fun run => !run.all isBlank

/-- A text with every run of blanks replaced by one separator, which is `none`. -/
def separated (text : List Char) : List (Option Char) :=
  (runs text).flatMap fun run => if run.all isBlank then [none] else run.map some

/-- Is this a run, of blanks or of other characters? -/
def IsRun (blank : Bool) (run : List Char) : Prop :=
  run ≠ [] ∧ ∀ c ∈ run, isBlank c = blank

/-- Is this a run, and the next one of the other kind? -/
def Alternates (run next : List Char) : Prop :=
  ∃ blank, IsRun blank run ∧ IsRun (!blank) next

/-- What is left of a run. -/
def collapseRun (run : List Char) : List Char := if run.all isBlank then [' '] else run

namespace IsRun

variable (h : IsRun blank run)

include h

theorem all_isBlank : run.all isBlank = blank := by
  obtain ⟨hne, hall⟩ := h
  cases blank with
  | true => exact List.all_eq_true.mpr hall
  | false =>
    obtain ⟨c, rest, rfl⟩ := List.exists_cons_of_ne_nil hne
    rw [List.all_cons, hall c (List.mem_cons_self ..), Bool.false_and]

theorem isChain : run.IsChain fun c d => (isBlank c == isBlank d) = true := by
  apply List.Pairwise.isChain
  apply List.pairwise_of_forall_mem_list
  intro c hc d hd
  rw [h.2 c hc, h.2 d hd, beq_self_eq_true]

theorem blankAfter_eq : blankAfter inRun run = blank := by
  rw [Text.blankAfter_eq, List.getLast?_eq_some_getLast h.1]
  exact h.2 _ (List.getLast_mem h.1)

theorem startsBlank_append (rest : List Char) : startsBlank (run ++ rest) = blank := by
  obtain ⟨hne, hall⟩ := h
  obtain ⟨c, others, rfl⟩ := List.exists_cons_of_ne_nil hne
  exact hall c (List.mem_cons_self ..)

/-- A run of blanks becomes one space, and any other run is left alone. -/
theorem collapseRun_eq : collapseRun run = if blank then [' '] else run := by
  rw [collapseRun, h.all_isBlank]

theorem isRun_collapseRun : IsRun blank (collapseRun run) := by
  rw [h.collapseRun_eq]
  cases blank with
  | true => exact ⟨List.cons_ne_nil _ _, List.forall_mem_singleton.mpr isBlank_space⟩
  | false => exact h

end IsRun

/-- Inside a run nothing more of a blank run is written, and everything of another. -/
theorem collapseFrom_inside (hall : ∀ c ∈ text, isBlank c = blank) :
    collapseFrom blank text = if blank then [] else text := by
  induction text with
  | nil => cases blank <;> rfl
  | cons c rest ih =>
    obtain ⟨hc, hrest⟩ := List.forall_mem_cons.mp hall
    cases blank with
    | true =>
      rw [collapseFrom_blank hc, ih hrest]
      rfl
    | false =>
      rw [collapseFrom_other hc, ih hrest]
      rfl

theorem IsRun.collapseFrom_eq (h : IsRun blank run) :
    collapseFrom false run = collapseRun run := by
  rw [h.collapseRun_eq]
  cases blank with
  | false => exact collapseFrom_inside h.2
  | true =>
    have hstart : startsBlank run = true := by
      rw [← List.append_nil run]
      exact h.startsBlank_append []
    rw [collapseFrom_of_startsBlank hstart, collapseFrom_inside h.2]
    rfl

/-- Adjacent characters of one kind are all of that kind. -/
theorem exists_isRun (hne : run ≠ [])
    (hchain : run.IsChain fun c d => (isBlank c == isBlank d) = true) :
    ∃ blank, IsRun blank run := by
  obtain ⟨first, rest, rfl⟩ := List.exists_cons_of_ne_nil hne
  refine ⟨isBlank first, hne, ?_⟩
  clear hne
  induction rest generalizing first with
  | nil => simp
  | cons next rest ih =>
    obtain ⟨hsame, hrest⟩ := List.isChain_cons_cons.mp hchain
    have hsame : isBlank first = isBlank next := beq_iff_eq.mp hsame
    exact List.forall_mem_cons.mpr ⟨rfl, hsame ▸ ih next hrest⟩

/-- The runs of a text are the one way to cut it into runs that alternate. -/
theorem runs_eq_iff {pieces : List (List Char)} :
    runs text = pieces ↔
      text = pieces.flatten ∧ (∀ run ∈ pieces, ∃ blank, IsRun blank run) ∧
        pieces.IsChain Alternates := by
  rw [runs, List.splitBy_eq_iff]
  constructor
  · rintro ⟨hflatten, hne, hsame, hother⟩
    have hruns : ∀ run ∈ pieces, ∃ blank, IsRun blank run := fun run hmem =>
      exists_isRun (fun hnil => hne (hnil ▸ hmem)) (hsame run hmem)
    refine ⟨hflatten, hruns, hother.imp_of_mem_imp ?_⟩
    rintro run next hrun hnext ⟨hrunne, hnextne, hdiffer⟩
    obtain ⟨blank, hblank⟩ := hruns run hrun
    obtain ⟨blank', hblank'⟩ := hruns next hnext
    rw [hblank.2 _ (List.getLast_mem hrunne), hblank'.2 _ (List.head_mem hnextne)] at hdiffer
    obtain rfl : blank' = !blank := by cases blank <;> cases blank' <;> simp at hdiffer ⊢
    exact ⟨blank, hblank, hblank'⟩
  · rintro ⟨hflatten, hruns, hother⟩
    refine ⟨hflatten, fun hnil => ?_, fun run hmem => ?_, hother.imp ?_⟩
    · obtain ⟨blank, hblank⟩ := hruns [] hnil
      exact hblank.1 rfl
    · obtain ⟨blank, hblank⟩ := hruns run hmem
      exact hblank.isChain
    · rintro run next ⟨blank, hrun, hnext⟩
      refine ⟨hrun.1, hnext.1, ?_⟩
      rw [hrun.2 _ (List.getLast_mem hrun.1), hnext.2 _ (List.head_mem hnext.1)]
      cases blank <;> rfl

theorem isRun_of_mem_runs (h : run ∈ runs text) : ∃ blank, IsRun blank run :=
  (runs_eq_iff.mp rfl).2.1 run h

/-! ## Collapsing run by run -/

/-- Runs that alternate collapse each by itself: behind a run of blanks there is no blank. -/
theorem collapseFrom_flatten {pieces : List (List Char)}
    (hruns : ∀ run ∈ pieces, ∃ blank, IsRun blank run) (hother : pieces.IsChain Alternates) :
    collapseFrom false pieces.flatten = pieces.flatMap collapseRun := by
  induction pieces with
  | nil => rfl
  | cons run rest ih =>
    obtain ⟨⟨blank, hblank⟩, hrest⟩ := List.forall_mem_cons.mp hruns
    obtain ⟨hnext, hother⟩ := List.isChain_cons.mp hother
    have hbehind : collapseFrom blank rest.flatten = collapseFrom false rest.flatten := by
      cases blank with
      | false => rfl
      | true =>
        apply collapseFrom_of_not_startsBlank
        cases rest with
        | nil => rfl
        | cons next others =>
          obtain ⟨blank', hrun, hstart⟩ := hnext next rfl
          obtain rfl : blank' = true := hrun.all_isBlank.symm.trans hblank.all_isBlank
          exact hstart.startsBlank_append others.flatten
    rw [List.flatten_cons, collapseFrom_append, hblank.collapseFrom_eq, hblank.blankAfter_eq,
      hbehind, ih hrest hother, List.flatMap_cons]

/-- A collapsed text, run by run. -/
theorem collapseChars_eq_flatMap : collapseChars text = (runs text).flatMap collapseRun := by
  obtain ⟨hflatten, hruns, hother⟩ := runs_eq_iff.mp (rfl : runs text = runs text)
  rw [collapseChars, ← collapseFrom_flatten hruns hother, ← hflatten]

/-- The runs of a collapsed text are what is left of the runs of the text. -/
theorem runs_collapseChars : runs (collapseChars text) = (runs text).map collapseRun := by
  obtain ⟨-, hruns, hother⟩ := runs_eq_iff.mp (rfl : runs text = runs text)
  rw [runs_eq_iff]
  refine ⟨collapseChars_eq_flatMap, List.forall_mem_map.mpr fun run hmem => ?_, ?_⟩
  · obtain ⟨blank, hblank⟩ := hruns run hmem
    exact ⟨blank, hblank.isRun_collapseRun⟩
  · apply List.isChain_map_of_isChain collapseRun _ hother
    rintro run next ⟨blank, hrun, hnext⟩
    exact ⟨blank, hrun.isRun_collapseRun, hnext.isRun_collapseRun⟩

/-- No word is cut or joined to another, and none is lost. -/
theorem words_collapseChars : words (collapseChars text) = words text := by
  have hkind : ∀ run ∈ runs text, (!(collapseRun run).all isBlank) = !run.all isBlank := by
    intro run hmem
    obtain ⟨blank, hblank⟩ := isRun_of_mem_runs hmem
    rw [hblank.all_isBlank, hblank.isRun_collapseRun.all_isBlank]
  have hword : ∀ run ∈ words text, collapseRun run = run := by
    intro run hmem
    obtain ⟨-, hword⟩ := List.mem_filter.mp hmem
    exact if_neg (by simpa using hword)
  calc words (collapseChars text)
    _ = ((runs text).filter fun run => !(collapseRun run).all isBlank).map collapseRun := by
      rw [words, runs_collapseChars, List.filter_map]
      rfl
    _ = (words text).map collapseRun := by rw [List.filter_congr hkind, words]
    _ = words text := by rw [List.map_congr_left hword, List.map_id']

/-- A text with its runs of blanks replaced, from the collapsed text. -/
theorem separated_eq_map :
    separated text = (collapseChars text).map fun c => if isBlank c then none else some c := by
  rw [separated, collapseChars_eq_flatMap, List.map_flatMap]
  refine List.flatMap_congr fun run hmem => ?_
  obtain ⟨blank, hblank⟩ := isRun_of_mem_runs hmem
  rw [hblank.all_isBlank, hblank.collapseRun_eq]
  cases blank with
  | true => rfl
  | false => exact List.map_congr_left fun c hc => by rw [hblank.2 c hc]; rfl

/-- The collapsed text, from the text with its runs of blanks replaced. -/
theorem collapseChars_eq_map :
    collapseChars text = (separated text).map fun c? => c?.getD ' ' := by
  rw [separated, collapseChars_eq_flatMap, List.map_flatMap]
  refine List.flatMap_congr fun run _ => ?_
  rw [collapseRun]
  split
  · rfl
  · rw [List.map_map]
    exact (List.map_id' run).symm

/-- Texts collapse to one text when they have the same words, separated in the same places. -/
theorem collapse_eq_iff {s t : String} :
    collapse s = collapse t ↔ separated s.toList = separated t.toList := by
  rw [← String.toList_inj, toList_collapse, toList_collapse]
  constructor
  · intro h
    rw [separated_eq_map, separated_eq_map, h]
  · intro h
    rw [collapseChars_eq_map, h, ← collapseChars_eq_map]

/-- Blanks at an end are a run like others. -/
example : separated "a \t\nb ".toList = [some 'a', none, some 'b', none] := by decide

/-! ## The laws -/

/-- What a text keeps when its blanks are collapsed, and what is left of them. -/
structure Collapsed (text collapsed : String) : Prop where
  /-- its blanks are spaces -/
  spaces : ∀ c ∈ collapsed.toList, isBlank c = true → c = ' '
  /-- no two of them are next to each other -/
  apart : ∀ front tail, collapsed.toList ≠ front ++ ' ' :: ' ' :: tail
  /-- its other characters are those of the text, in their order -/
  others : collapsed.toList.filter (!isBlank ·) = text.toList.filter (!isBlank ·)
  /-- its words are those of the text -/
  words : words collapsed.toList = words text.toList
  /-- it starts with a space where the text starts with a blank -/
  starts : collapsed.toList.head? = some ' ' ↔ startsBlank text.toList = true
  /-- it ends with a space where the text ends with a blank -/
  ends : collapsed.toList.getLast? = some ' ' ↔ endsBlank text.toList = true

/-- Collapsing has each property that a collapsed text is to have. -/
theorem collapsed_collapse (text : String) : Collapsed text (collapse text) where
  spaces c hmem hc := by
    rw [toList_collapse] at hmem
    exact eq_space_of_mem_collapseChars hmem hc
  apart front tail := by
    rw [toList_collapse]
    exact collapseChars_ne_two_spaces
  others := collapse_filter text
  words := by rw [toList_collapse, words_collapseChars]
  starts := by rw [toList_collapse, head?_collapseChars_iff]
  ends := by rw [toList_collapse, getLast?_collapseChars_iff]

/-- Texts may be collapsed before they are put together, if the seam is collapsed after. -/
theorem collapse_append (s t : String) :
    collapse (s ++ t) = collapse (collapse s ++ collapse t) := by
  rw [← String.toList_inj, toList_collapse, toList_collapse, String.toList_append,
    String.toList_append, toList_collapse, toList_collapse, collapseChars, collapseFrom_append,
    collapseChars, collapseFrom_append, collapseFrom_collapseChars, collapseFrom_collapseChars,
    collapseChars, blankAfter_collapseFrom]

/-- The parts of a text may be collapsed before the text is. -/
theorem collapse_join (texts : List String) :
    collapse (String.join (texts.map collapse)) = collapse (String.join texts) := by
  induction texts with
  | nil => rfl
  | cons text rest ih =>
    rw [List.map_cons, String.join_cons, String.join_cons, collapse_append, collapse_idem, ih,
      ← collapse_append]

/-- Texts collapse one by one as they do together, unless a run goes on from the first into the
second. -/
theorem collapse_append_collapse_iff (s t : String) :
    collapse s ++ collapse t = collapse (s ++ t) ↔
      ¬ (endsBlank s.toList = true ∧ startsBlank t.toList = true) := by
  rw [← String.toList_inj, String.toList_append, toList_collapse, toList_collapse,
    toList_collapse, String.toList_append, collapseChars, collapseChars, collapseChars,
    collapseFrom_append, blankAfter_false, List.append_cancel_left_eq]
  cases hend : endsBlank s.toList with
  | false => simp
  | true =>
    cases hstart : startsBlank t.toList with
    | false =>
      have hinside : collapseFrom true t.toList = collapseFrom false t.toList :=
        collapseFrom_of_not_startsBlank hstart
      simp [hinside]
    | true => simp [collapseFrom_of_startsBlank hstart]

/-- Collapsing keeps the words of a text and makes a single space of every run of blanks, at its
ends too; a collapsed text it leaves as it is. Collapsing the parts of a text first makes no
difference to collapsing it, and is all that is to be done unless a run goes on from one part into
the next. Texts collapse to the same exactly if they differ in their runs of blanks only. -/
theorem collapse_lawful (s t : String) :
    Collapsed s (collapse s) ∧ collapse (collapse s) = collapse s ∧
      collapse (s ++ t) = collapse (collapse s ++ collapse t) ∧
      (collapse s ++ collapse t = collapse (s ++ t) ↔
        ¬ (endsBlank s.toList = true ∧ startsBlank t.toList = true)) ∧
      (collapse s = collapse t ↔ separated s.toList = separated t.toList) :=
  ⟨collapsed_collapse s, collapse_idem s, collapse_append s t, collapse_append_collapse_iff s t,
    collapse_eq_iff⟩

end Refetch.Text
