import Refetch.Proofs.Document.Reading

/-!
# One lexeme of look-ahead

A reader takes a chunk off the front of its input. What it makes of that chunk depends on the
one lexeme that follows (`Reader.LooksAhead`), and for a reader that stops at a mark of its
own on nothing that follows (`Reader.Closed`). So what a closed reader reads can be followed
by anything, and a list of such items can be read in parts (`Reader.toEnd_append`).

Repetitions are bounded by a list as long as their input. No item is empty, so a longer bound
never makes a difference.
-/

namespace Refetch

namespace Reader

variable {α β : Type}

/-- The reader reads `x` from exactly this chunk whenever `next` comes after it. -/
def Reads (r : Reader α) (chunk : List Lexeme) (x : α) (next : Option Lexeme) : Prop :=
  ∀ more : List Lexeme, more.head? = next → r (chunk ++ more) = .ok (x, more)

/-- What is read depends on no more of what follows than its first lexeme. -/
def LooksAhead (r : Reader α) : Prop :=
  ∀ ⦃input x rest⦄, r input = .ok (x, rest) →
    ∃ chunk, input = chunk ++ rest ∧ r.Reads chunk x rest.head?

/-- The reader looks ahead as above, and it takes a lexeme at least. -/
def Takes (r : Reader α) : Prop :=
  ∀ ⦃input x rest⦄, r input = .ok (x, rest) →
    ∃ chunk, chunk ≠ [] ∧ input = chunk ++ rest ∧ r.Reads chunk x rest.head?

/-- The reader takes a lexeme at least, and what it reads depends on nothing that follows. -/
def Closed (r : Reader α) : Prop :=
  ∀ ⦃input x rest⦄, r input = .ok (x, rest) →
    ∃ chunk, chunk ≠ [] ∧ input = chunk ++ rest ∧ ∀ next, r.Reads chunk x next

/-- The last lexeme that the reader takes is this mark. -/
def Ends (mark : Punctuator) (r : Reader α) : Prop :=
  ∀ ⦃input x rest⦄, r input = .ok (x, rest) →
    ∃ front pos, input = front ++ ⟨pos, .punct mark⟩ :: rest

/-- What depends on nothing that follows depends on no more than the first lexeme of it. -/
theorem Closed.takes {r : Reader α} (h : r.Closed) : r.Takes := by
  intro input x rest hx
  obtain ⟨chunk, hne, hinput, hreads⟩ := h hx
  exact ⟨chunk, hne, hinput, hreads _⟩

theorem Takes.looksAhead {r : Reader α} (h : r.Takes) : r.LooksAhead := by
  intro input x rest hx
  obtain ⟨chunk, -, hinput, hreads⟩ := h hx
  exact ⟨chunk, hinput, hreads⟩

theorem Closed.looksAhead {r : Reader α} (h : r.Closed) : r.LooksAhead := h.takes.looksAhead

/-- A reader that takes something leaves less. -/
theorem Takes.length_lt {r : Reader α} (h : r.Takes) {input rest : List Lexeme} {x : α}
    (hx : r input = .ok (x, rest)) : rest.length < input.length := by
  obtain ⟨chunk, hne, rfl, -⟩ := h hx
  have := List.length_pos_iff.mpr hne
  rw [List.length_append]
  omega

/-! ## One reader after another -/

/-- What follows a chunk is what comes first of the next chunk, if that has anything. -/
theorem head?_append_congr {chunk more rest : List Lexeme} (h : more.head? = rest.head?) :
    (chunk ++ more).head? = (chunk ++ rest).head? := by
  cases chunk with
  | nil => exact h
  | cons lexeme chunk => rfl

/-- A chunk that has a lexeme starts with it, whatever follows. -/
theorem head?_append_of_ne_nil {chunk : List Lexeme} (h : chunk ≠ []) (more rest : List Lexeme) :
    (chunk ++ more).head? = (chunk ++ rest).head? := by
  cases chunk with
  | nil => exact absurd rfl h
  | cons lexeme chunk => rfl

/-- Reading on: the second reader's chunk follows the first one's. -/
theorem Reads.bind {r : Reader α} {f : α → Reader β} {first second : List Lexeme} {x : α}
    {y : β} {next : Option Lexeme} {rest : List Lexeme}
    (hr : r.Reads first x (second ++ rest).head?) (hnext : next = rest.head? ∨ second ≠ [])
    (hf : (f x).Reads second y next) : (r >>= f).Reads (first ++ second) y next := by
  intro more hmore
  have hhead : (second ++ more).head? = (second ++ rest).head? := by
    rcases hnext with hnext | hne
    · exact head?_append_congr (hmore.trans hnext)
    · exact head?_append_of_ne_nil hne more rest
  rw [List.append_assoc, bind_ok (hr _ hhead)]
  exact hf more hmore

section Bind

variable {r : Reader α} {f : α → Reader β}

/-- Readers that look one lexeme ahead, one after the other, do so together. -/
theorem LooksAhead.bind (hr : r.LooksAhead) (hf : ∀ x, (f x).LooksAhead) :
    (r >>= f).LooksAhead := by
  intro input y rest h
  obtain ⟨x, middle, hx, hy⟩ := bind_eq_ok h
  obtain ⟨first, rfl, hfirst⟩ := hr hx
  obtain ⟨second, rfl, hsecond⟩ := hf x hy
  exact ⟨first ++ second, (List.append_assoc ..).symm, hfirst.bind (Or.inl rfl) hsecond⟩

/-- It is enough that the first of two readers takes a lexeme. -/
theorem Takes.bind (hr : r.Takes) (hf : ∀ x, (f x).LooksAhead) : (r >>= f).Takes := by
  intro input y rest h
  obtain ⟨x, middle, hx, hy⟩ := bind_eq_ok h
  obtain ⟨first, hne, rfl, hfirst⟩ := hr hx
  obtain ⟨second, rfl, hsecond⟩ := hf x hy
  exact ⟨first ++ second, List.append_ne_nil_of_left_ne_nil hne _, (List.append_assoc ..).symm,
    hfirst.bind (Or.inl rfl) hsecond⟩

/-- It is enough that the second of two readers takes a lexeme. -/
theorem LooksAhead.bind_takes (hr : r.LooksAhead) (hf : ∀ x, (f x).Takes) :
    (r >>= f).Takes := by
  intro input y rest h
  obtain ⟨x, middle, hx, hy⟩ := bind_eq_ok h
  obtain ⟨first, rfl, hfirst⟩ := hr hx
  obtain ⟨second, hne, rfl, hsecond⟩ := hf x hy
  exact ⟨first ++ second, List.append_ne_nil_of_right_ne_nil _ hne,
    (List.append_assoc ..).symm, hfirst.bind (Or.inl rfl) hsecond⟩

/-- What the second of two readers stops at, both together stop at. -/
theorem LooksAhead.bind_closed (hr : r.LooksAhead) (hf : ∀ x, (f x).Closed) :
    (r >>= f).Closed := by
  intro input y rest h
  obtain ⟨x, middle, hx, hy⟩ := bind_eq_ok h
  obtain ⟨first, rfl, hfirst⟩ := hr hx
  obtain ⟨second, hne, rfl, hsecond⟩ := hf x hy
  exact ⟨first ++ second, List.append_ne_nil_of_right_ne_nil _ hne,
    (List.append_assoc ..).symm, fun next => hfirst.bind (Or.inr hne) (hsecond next)⟩

/-- What is done with the value of a closed reader leaves it closed. -/
theorem Closed.map (hr : r.Closed) (g : α → β) : (r >>= fun x => pure (g x)).Closed := by
  intro input y rest h
  obtain ⟨x, middle, hx, hy⟩ := bind_eq_ok h
  obtain ⟨rfl, rfl⟩ := pure_eq_ok hy
  obtain ⟨chunk, hne, rfl, hreads⟩ := hr hx
  refine ⟨chunk, hne, rfl, fun next more hmore => ?_⟩
  rw [bind_ok (hreads next more hmore), pure_apply]

/-- Two readers in a row end where the second does. -/
theorem Ends.bind {mark : Punctuator} (hr : r.LooksAhead) (hf : ∀ x, (f x).Ends mark) :
    (r >>= f).Ends mark := by
  intro input y rest h
  obtain ⟨x, middle, hx, hy⟩ := bind_eq_ok h
  obtain ⟨first, rfl, -⟩ := hr hx
  obtain ⟨front, pos, rfl⟩ := hf x hy
  exact ⟨first ++ front, pos, (List.append_assoc ..).symm⟩

theorem Ends.map {mark : Punctuator} (hr : r.Ends mark) (g : α → β) :
    (r >>= fun x => pure (g x)).Ends mark := by
  intro input y rest h
  obtain ⟨x, middle, hx, hy⟩ := bind_eq_ok h
  obtain ⟨rfl, rfl⟩ := pure_eq_ok hy
  exact hr hx

end Bind

/-! ## Single lexemes -/

theorem looksAhead_pure (x : α) : (pure x : Reader α).LooksAhead := by
  intro input y rest h
  obtain ⟨rfl, rfl⟩ := pure_eq_ok h
  exact ⟨[], rfl, fun more _ => rfl⟩

theorem closed_fail : (fail : Reader α).Closed := by
  intro input x rest h
  cases h

/-- To see a mark is to look at the first lexeme, and to leave it. -/
theorem looksAhead_sees (mark : Punctuator) : (sees mark).LooksAhead := by
  intro input seen rest h
  rw [sees_apply] at h
  obtain ⟨rfl, rfl⟩ := Prod.mk.inj (Except.ok.inj h)
  refine ⟨[], rfl, fun more hmore => ?_⟩
  rw [List.nil_append, sees_apply, startsWith_congr mark hmore]

/-- The place of the next lexeme is all that is looked at, and nothing is taken. -/
theorem looksAhead_here : here.LooksAhead := by
  intro input pos rest h
  cases input with
  | nil => cases h
  | cons lexeme input =>
    obtain ⟨rfl, rfl⟩ := Prod.mk.inj (Except.ok.inj h)
    refine ⟨[], rfl, fun more hmore => ?_⟩
    cases more with
    | nil => cases hmore
    | cons lexeme' more =>
      obtain rfl := Option.some.inj hmore
      rfl

/-- The mark is the one lexeme taken, and nothing after it is looked at. -/
theorem closed_punct (mark : Punctuator) : (punct mark).Closed := by
  intro input pos rest h
  rw [punct_eq_ok h]
  exact ⟨[⟨pos, .punct mark⟩], List.cons_ne_nil _ _, rfl,
    fun next more _ => punct_cons mark pos more⟩

theorem ends_punct (mark : Punctuator) : (punct mark).Ends mark := by
  intro input pos rest h
  exact ⟨[], pos, punct_eq_ok h⟩

theorem closed_name : name.Closed := by
  intro input text rest h
  obtain ⟨pos, rfl⟩ := name_eq_ok h
  exact ⟨[⟨pos, .name text⟩], List.cons_ne_nil _ _, rfl, fun next more _ => rfl⟩

theorem closed_keyword (text : String) : (keyword text).Closed := by
  intro input x rest h
  unfold keyword at h
  split at h
  · rename_i pos found tail
    split at h
    · rename_i hfound
      obtain ⟨-, rfl⟩ := Prod.mk.inj (Except.ok.inj h)
      refine ⟨[⟨pos, .name found⟩], List.cons_ne_nil _ _, rfl, fun next more _ => ?_⟩
      rw [List.singleton_append, keyword, if_pos hfound]
    · cases h
  · cases h

/-- A name that may be missing is looked for in the next lexeme, and taken if it is there. -/
theorem looksAhead_name? : name?.LooksAhead := by
  intro input found rest h
  rcases input with _ | ⟨⟨pos, token⟩, input⟩
  · obtain ⟨rfl, rfl⟩ := Prod.mk.inj (Except.ok.inj h)
    refine ⟨[], rfl, fun more hmore => ?_⟩
    rw [List.head?_eq_none_iff.mp hmore]
    rfl
  · cases token with
    | name text =>
      obtain ⟨rfl, rfl⟩ := Prod.mk.inj (Except.ok.inj h)
      exact ⟨[⟨pos, .name text⟩], rfl, fun more _ => rfl⟩
    | _ =>
      obtain ⟨rfl, rfl⟩ := Prod.mk.inj (Except.ok.inj h)
      refine ⟨[], rfl, fun more hmore => ?_⟩
      rcases more with _ | ⟨lexeme, more⟩
      · cases hmore
      · obtain rfl := Option.some.inj hmore
        rfl

/-! ## Repetitions -/

section Repetition

variable {r : Reader α} {mark : Punctuator}

/-- Whatever the item, something is seen of an input only if there is something. -/
theorem upToClose_cons (close : Punctuator) (r : Reader α) (lexeme : Lexeme)
    (bound input : List Lexeme) :
    upToClose close r (lexeme :: bound) input =
      if startsWith close input then
        (do let stop ← punct close; return ([], stop)) input
      else
        (do let x ← r
            let (rest, stop) ← upToClose close r bound
            return (x :: rest, stop)) input := by
  rw [upToClose, bind_ok (sees_apply close input)]
  split <;> rfl

/-- The mark alone, with any bound that has an entry. -/
theorem upToClose_stop {input rest : List Lexeme} {x : List α × Pos}
    (h : (do let stop ← punct mark; return ([], stop) : Reader (List α × Pos)) input =
      .ok (x, rest)) :
    ∃ chunk, chunk ≠ [] ∧ input = chunk ++ rest ∧
      ∀ more bound, chunk.length ≤ bound.length →
        upToClose mark r bound (chunk ++ more) = .ok (x, more) := by
  obtain ⟨stop, middle, hstop, hx⟩ := bind_eq_ok h
  obtain ⟨rfl, rfl⟩ := pure_eq_ok hx
  rw [punct_eq_ok hstop]
  refine ⟨[⟨stop, .punct mark⟩], List.cons_ne_nil _ _, rfl, fun more bound hbound => ?_⟩
  cases bound with
  | nil => exact absurd hbound (by simp)
  | cons lexeme bound =>
    rw [upToClose_cons, if_pos (by simp [startsWith]), List.singleton_append,
      bind_ok (punct_cons mark stop more), pure_apply]

/-- Items up to a mark, with any bound that has room for them. -/
theorem upToClose_chunk (hr : r.Takes) {bound input rest : List Lexeme} {x : List α × Pos}
    (h : upToClose mark r bound input = .ok (x, rest)) :
    ∃ chunk, chunk ≠ [] ∧ input = chunk ++ rest ∧
      ∀ more bound', chunk.length ≤ bound'.length →
        upToClose mark r bound' (chunk ++ more) = .ok (x, more) := by
  induction bound generalizing input x with
  | nil => exact upToClose_stop h
  | cons lexeme bound ih =>
    rw [upToClose_cons] at h
    by_cases hsees : startsWith mark input = true
    · rw [if_pos hsees] at h
      exact upToClose_stop h
    · rw [if_neg hsees] at h
      obtain ⟨first, middle, hfirst, h⟩ := bind_eq_ok h
      obtain ⟨found, rest', hfound, hx⟩ := bind_eq_ok h
      obtain ⟨rfl, rfl⟩ := pure_eq_ok hx
      obtain ⟨c₁, hne₁, rfl, hreads₁⟩ := hr hfirst
      obtain ⟨c₂, hne₂, rfl, hreads₂⟩ := ih hfound
      refine ⟨c₁ ++ c₂, List.append_ne_nil_of_left_ne_nil hne₁ _, (List.append_assoc ..).symm,
        fun more bound' hbound => ?_⟩
      have hpos := List.length_pos_iff.mpr hne₁
      rw [List.length_append] at hbound
      cases bound' with
      | nil =>
        rw [List.length_nil] at hbound
        omega
      | cons lexeme' bound' =>
        -- whatever comes after it, the chunk of an item starts as it did
        have hsees' : ¬ startsWith mark (c₁ ++ (c₂ ++ more)) = true := by
          rwa [startsWith_congr mark (head?_append_of_ne_nil hne₁ _ (c₂ ++ rest))]
        have hroom : c₂.length ≤ bound'.length := by
          rw [List.length_cons] at hbound
          omega
        rw [List.append_assoc, upToClose_cons, if_neg hsees',
          bind_ok (hreads₁ _ (head?_append_of_ne_nil hne₂ _ _)),
          bind_ok (hreads₂ more bound' hroom)]
        rfl

/-- Items up to a mark are read whatever comes after the mark. -/
theorem closed_itemsUntil (hr : r.Takes) : (itemsUntil mark r).Closed := by
  intro input x rest h
  obtain ⟨chunk, hne, rfl, hreads⟩ := upToClose_chunk hr h
  refine ⟨chunk, hne, rfl, fun next more _ => hreads more _ ?_⟩
  rw [List.length_append]
  omega

theorem ends_upToClose (hr : r.LooksAhead) (bound : List Lexeme) :
    (upToClose mark r bound).Ends mark := by
  induction bound with
  | nil => exact (ends_punct mark).map _
  | cons lexeme bound ih =>
    refine Ends.bind (looksAhead_sees mark) fun seen => ?_
    cases seen with
    | true => exact (ends_punct mark).map _
    | false => exact Ends.bind hr fun x => ih.map _

theorem ends_itemsUntil (hr : r.LooksAhead) : (itemsUntil mark r).Ends mark :=
  fun input _ _ h => ends_upToClose hr input h

/-- What stands between two marks, if anything, is read whatever comes after the second. -/
theorem closed_between (opening : Punctuator) (hr : r.Takes) :
    (between opening mark r).Closed :=
  (closed_punct opening).looksAhead.bind_closed fun _ => (closed_itemsUntil hr).map _

/-- One item or more between two marks are read whatever comes after the second. -/
theorem closed_someBetween (opening : Punctuator) (hr : r.Takes) :
    (someBetween opening mark r).Closed :=
  (closed_punct opening).looksAhead.bind_closed fun _ =>
    hr.looksAhead.bind_closed fun _ => (closed_itemsUntil hr).map _

theorem ends_someBetween (opening : Punctuator) (hr : r.LooksAhead) :
    (someBetween opening mark r).Ends mark :=
  Ends.bind (closed_punct opening).looksAhead fun _ =>
    Ends.bind hr fun _ => (ends_itemsUntil hr).map _

/-- With room for one more item, an item is read if the mark is seen, and otherwise nothing. -/
theorem whileSeesUpTo_cons (mark : Punctuator) (r : Reader α) (lexeme : Lexeme)
    (bound input : List Lexeme) :
    whileSeesUpTo mark r (lexeme :: bound) input =
      if startsWith mark input then
        (do let x ← r
            let rest ← whileSeesUpTo mark r bound
            return x :: rest) input
      else .ok ([], input) := by
  rw [whileSeesUpTo, bind_ok (sees_apply mark input)]
  split <;> rfl

/-- No item is read where the mark is not seen, whatever the bound. -/
theorem whileSeesUpTo_of_not {bound input : List Lexeme} (h : ¬ startsWith mark input = true) :
    whileSeesUpTo mark r bound input = .ok ([], input) := by
  cases bound with
  | nil => rfl
  | cons lexeme bound => rw [whileSeesUpTo_cons, if_neg h]

/-- Items while a mark is seen, with any bound that is as long as the input. -/
theorem whileSeesUpTo_chunk (hr : r.Takes) {bound input rest : List Lexeme} {xs : List α}
    (hbound : input.length ≤ bound.length)
    (h : whileSeesUpTo mark r bound input = .ok (xs, rest)) :
    ∃ chunk, input = chunk ++ rest ∧
      ∀ more bound', more.head? = rest.head? → (chunk ++ more).length ≤ bound'.length →
        whileSeesUpTo mark r bound' (chunk ++ more) = .ok (xs, more) := by
  induction bound generalizing input xs with
  | nil =>
    -- the bound is used up with the input, and what follows starts with no mark either
    obtain rfl := List.length_eq_zero_iff.mp (Nat.le_zero.mp hbound)
    obtain ⟨rfl, rfl⟩ := pure_eq_ok h
    refine ⟨[], rfl, fun more bound' hmore _ => ?_⟩
    rw [List.head?_eq_none_iff.mp hmore]
    exact whileSeesUpTo_of_not (by simp [startsWith])
  | cons lexeme bound ih =>
    by_cases hsees : startsWith mark input = true
    · rw [whileSeesUpTo_cons, if_pos hsees] at h
      obtain ⟨first, middle, hfirst, h⟩ := bind_eq_ok h
      obtain ⟨found, rest', hfound, hx⟩ := bind_eq_ok h
      obtain ⟨rfl, rfl⟩ := pure_eq_ok hx
      have hlt := hr.length_lt hfirst
      obtain ⟨c₁, hne₁, rfl, hreads₁⟩ := hr hfirst
      obtain ⟨c₂, rfl, hreads₂⟩ := ih (by rw [List.length_cons] at hbound; omega) hfound
      refine ⟨c₁ ++ c₂, (List.append_assoc ..).symm, fun more bound' hmore hbound' => ?_⟩
      have hpos := List.length_pos_iff.mpr hne₁
      rw [List.append_assoc, List.length_append] at hbound'
      cases bound' with
      | nil =>
        rw [List.length_nil] at hbound'
        omega
      | cons lexeme' bound' =>
        have hsees' : startsWith mark (c₁ ++ (c₂ ++ more)) = true := by
          rwa [startsWith_congr mark (head?_append_of_ne_nil hne₁ _ (c₂ ++ rest))]
        have hroom : (c₂ ++ more).length ≤ bound'.length := by
          rw [List.length_cons] at hbound'
          omega
        rw [List.append_assoc, whileSeesUpTo_cons, if_pos hsees',
          bind_ok (hreads₁ _ (head?_append_congr hmore)),
          bind_ok (hreads₂ more bound' hmore hroom), pure_apply]
    · rw [whileSeesUpTo_of_not hsees] at h
      obtain ⟨rfl, rfl⟩ := Prod.mk.inj (Except.ok.inj h)
      refine ⟨[], rfl, fun more bound' hmore _ => whileSeesUpTo_of_not ?_⟩
      rwa [List.nil_append, startsWith_congr mark hmore]

/-- Items while a mark is seen end where the next lexeme is another, which is all that is looked
at. -/
theorem looksAhead_whileSees (hr : r.Takes) : (whileSees mark r).LooksAhead := by
  intro input xs rest h
  obtain ⟨chunk, rfl, hreads⟩ := whileSeesUpTo_chunk hr (Nat.le_refl _) h
  exact ⟨chunk, rfl, fun more hmore => hreads more _ hmore (Nat.le_refl _)⟩

/-! ## Items to the end -/

theorem toEndUpTo_nil (bound : List Lexeme) : toEndUpTo r bound [] = .ok ([], []) := by
  cases bound <;> rfl

theorem toEndUpTo_cons (r : Reader α) (lexeme first : Lexeme) (bound input : List Lexeme) :
    toEndUpTo r (lexeme :: bound) (first :: input) =
      (do let x ← r
          let rest ← toEndUpTo r bound
          return x :: rest) (first :: input) := rfl

/-- Bounds that are as long as the input give the same. -/
theorem toEndUpTo_congr (hr : r.Takes) {bound bound' input : List Lexeme}
    (hbound : input.length ≤ bound.length) (hbound' : input.length ≤ bound'.length) :
    toEndUpTo r bound input = toEndUpTo r bound' input := by
  induction bound generalizing bound' input with
  | nil =>
    obtain rfl := List.length_eq_zero_iff.mp (Nat.le_zero.mp hbound)
    rw [toEndUpTo_nil, toEndUpTo_nil]
  | cons lexeme bound ih =>
    cases input with
    | nil => rw [toEndUpTo_nil, toEndUpTo_nil]
    | cons first input =>
      cases bound' with
      | nil => exact absurd hbound' (by simp)
      | cons lexeme' bound' =>
        rw [toEndUpTo_cons, toEndUpTo_cons]
        rcases hx : r (first :: input) with rest | ⟨x, rest⟩
        · rw [bind_error hx, bind_error hx]
        · -- the item took something, so both bounds still reach to the end
          have hlt := hr.length_lt hx
          have hrest : toEndUpTo r bound rest = toEndUpTo r bound' rest := by
            simp only [List.length_cons] at hbound hbound' hlt
            exact ih (by omega) (by omega)
          rw [bind_ok hx, bind_ok hx]
          rcases hxs : toEndUpTo r bound' rest with rest' | ⟨xs, rest'⟩
          · rw [bind_error hxs, bind_error (hrest.trans hxs)]
          · rw [bind_ok hxs, bind_ok (hrest.trans hxs)]

/-- Where there is a lexeme there is an item, and the others after it. -/
theorem toEnd_of_ne_nil (hr : r.Takes) {input : List Lexeme} (h : input ≠ []) :
    toEnd r input = (do let x ← r; let rest ← toEnd r; return x :: rest) input := by
  cases input with
  | nil => exact absurd rfl h
  | cons first input =>
    rw [toEnd, toEndUpTo_cons]
    rcases hx : r (first :: input) with rest | ⟨x, rest⟩
    · rw [bind_error hx, bind_error hx]
    · have hlt := hr.length_lt hx
      have hrest : toEndUpTo r input rest = toEnd r rest :=
        toEndUpTo_congr hr (Nat.lt_succ_iff.mp hlt) (Nat.le_refl _)
      rw [bind_ok hx, bind_ok hx]
      rcases hxs : toEnd r rest with rest' | ⟨xs, rest'⟩
      · rw [bind_error hxs, bind_error (hrest.trans hxs)]
      · rw [bind_ok hxs, bind_ok (hrest.trans hxs)]

/-- Items to the end leave nothing, and with more lexemes behind them they are followed by the
items of those, if there are only items. The induction is on the length of the input, of which
every item takes some. -/
theorem toEnd_append (hr : r.Closed) {input rest : List Lexeme} {xs : List α}
    (h : toEnd r input = .ok (xs, rest)) :
    rest = [] ∧ ∀ more, toEnd r (input ++ more) = (do return xs ++ (← toEnd r)) more := by
  generalize hn : input.length = n
  induction n using Nat.strongRecOn generalizing input xs with
  | ind n ih =>
    by_cases hinput : input = []
    · subst hinput
      obtain ⟨rfl, rfl⟩ := Prod.mk.inj (Except.ok.inj h)
      refine ⟨rfl, fun more => ?_⟩
      rcases hys : toEnd r more with rest' | ⟨ys, rest'⟩
      · rw [List.nil_append, hys, bind_error hys]
      · rw [List.nil_append, hys, bind_ok hys, pure_apply, List.nil_append]
    · rw [toEnd_of_ne_nil hr.takes hinput] at h
      obtain ⟨x, middle, hx, h⟩ := bind_eq_ok h
      obtain ⟨found, rest', hfound, hxs⟩ := bind_eq_ok h
      obtain ⟨rfl, rfl⟩ := pure_eq_ok hxs
      have hlt := hr.takes.length_lt hx
      obtain ⟨hrest, happend⟩ := ih _ (hn ▸ hlt) hfound rfl
      refine ⟨hrest, fun more => ?_⟩
      obtain ⟨chunk, hne, rfl, hreads⟩ := hr hx
      rw [List.append_assoc, toEnd_of_ne_nil hr.takes (List.append_ne_nil_of_left_ne_nil hne _),
        bind_ok (hreads _ (middle ++ more) rfl)]
      have hmore := happend more
      rcases hys : toEnd r more with rest'' | ⟨ys, rest''⟩
      · rw [bind_error hys] at hmore ⊢
        rw [bind_error hmore]
      · rw [bind_ok hys, pure_apply] at hmore ⊢
        rw [bind_ok hmore, pure_apply, List.cons_append]

/-- The last lexeme of items that end in a mark is that mark. -/
theorem toEnd_ends (hr : r.Closed) (hends : r.Ends mark) {input rest : List Lexeme}
    {xs : List α} (h : toEnd r input = .ok (xs, rest)) (hne : input ≠ []) :
    ∃ front pos, input = front ++ [⟨pos, .punct mark⟩] := by
  generalize hn : input.length = n
  induction n using Nat.strongRecOn generalizing input xs with
  | ind n ih =>
    rw [toEnd_of_ne_nil hr.takes hne] at h
    obtain ⟨x, middle, hx, h⟩ := bind_eq_ok h
    obtain ⟨found, rest', hfound, hxs⟩ := bind_eq_ok h
    obtain ⟨rfl, rfl⟩ := pure_eq_ok hxs
    have hlt := hr.takes.length_lt hx
    obtain ⟨front, pos, rfl⟩ := hends hx
    by_cases hmiddle : middle = []
    · exact ⟨front, pos, by rw [hmiddle]⟩
    · obtain ⟨front', pos', rfl⟩ := ih _ (hn ▸ hlt) hfound hmiddle rfl
      exact ⟨front ++ ⟨pos, .punct mark⟩ :: front', pos', by simp⟩

end Repetition

end Reader

end Refetch
