import Refetch.Source.Load
import Refetch.Proofs.Document.Joining

/-!
# A query with its fragments

The pieces that are texts are put one after the other and read at once. Their blanks, the line
ends among them, are collapsed before, so a comment in one text goes on to the end of all of
them: texts are heard up to the first that ends in a comment. Pieces that are documents are no
part of this and are always carried over.

* `Source.loadWith_eq_ok_iff` — what loading succeeds with, in general
* `Source.loadWith_heard` — what pieces are loaded to, each of which loads by itself
-/

namespace Refetch

namespace Source

/-! ## One piece -/

variable {piece : Source} {d : Document}

theorem exists_canonical (hpiece : piece.isDocument = false) :
    ∃ canonical, piece.canonical? = some canonical := by
  cases piece with
  | document ready => cases hpiece
  | _ => exact ⟨_, rfl⟩

/-- A text that loads is a document once its blanks are collapsed. -/
theorem parse_of_load {canonical : String} (h : piece.load = .ok d)
    (hcanonical : piece.canonical? = some canonical) : Document.parse canonical = .ok d := by
  have hparse : ∀ supplied, parseCanonical canonical supplied = .ok d →
      Document.parse canonical = .ok d := by
    intro supplied h
    rw [parseCanonical] at h
    split at h
    · rename_i hread
      rw [hread, Except.ok.inj h]
    · cases h
  cases piece with
  | document ready => cases hcanonical
  | text supplied =>
    obtain rfl := Option.some.inj hcanonical
    exact hparse supplied h
  | wrapped supplied =>
    obtain rfl := Option.some.inj hcanonical
    exact hparse supplied h

/-- A text loaded by itself is read from its collapsed form. -/
theorem load_of_canonical {canonical : String} (h : piece.canonical? = some canonical)
    (hread : Document.parse canonical = .ok d) : piece.load = .ok d := by
  cases piece with
  | document ready => cases h
  | text supplied =>
    obtain rfl := Option.some.inj h
    rw [load, parseCanonical, hread]
  | wrapped supplied =>
    obtain rfl := Option.some.inj h
    rw [load, parseCanonical, hread]

/-- A document that loads is carried over, and holds a definition. -/
theorem eq_document_of_load (hpiece : piece.isDocument = true) (h : piece.load = .ok d) :
    piece = .document d ∧ d.definitions ≠ [] := by
  cases piece with
  | document ready =>
    rw [load] at h
    split at h
    · cases h
    · rename_i hne
      obtain rfl := Except.ok.inj h
      exact ⟨rfl, by simpa using hne⟩
  | text supplied => cases hpiece
  | wrapped supplied => cases hpiece

/-- A document loads as itself if it has a definition. -/
theorem load_document (h : d.definitions ≠ []) : (Source.document d).load = .ok d :=
  if_neg (by simpa using h)

/-- Whatever loads has a definition. -/
theorem definitions_ne_nil_of_load (h : piece.load = .ok d) : d.definitions ≠ [] := by
  cases hpiece : piece.isDocument with
  | true => exact (eq_document_of_load hpiece h).2
  | false =>
    obtain ⟨canonical, hcanonical⟩ := exists_canonical hpiece
    have hread := parse_of_load h hcanonical
    exact Grammar.document_definitions_ne_nil (Document.ofScan_eq_ok_iff.mp hread).2

theorem definitions_of_document (hpiece : piece.isDocument = true) (h : piece.load = .ok d) :
    piece.definitions = d.definitions := by
  rw [(eq_document_of_load hpiece h).1]
  rfl

/-- A text comes with no definitions of its own. -/
theorem definitions_of_text (hpiece : piece.isDocument = false) : piece.definitions = [] := by
  cases piece with
  | document ready => cases hpiece
  | _ => rfl

/-- Does the text, with its blanks collapsed, end in a comment? A document has no text. -/
def endsInComment (piece : Source) : Bool :=
  piece.canonical?.any fun canonical => (Scanner.start.run canonical.toList).mode = .comment

/-- A text ends in a comment when the scanner is left in one by what it collapses to. -/
theorem endsInComment_of_canonical {canonical : String} (h : piece.canonical? = some canonical) :
    piece.endsInComment = true ↔ (Scanner.start.run canonical.toList).mode = .comment := by
  simp [endsInComment, h]

theorem endsInComment_of_document (hpiece : piece.isDocument = true) :
    piece.endsInComment = false := by
  cases piece with
  | document ready => rfl
  | _ => cases hpiece

/-- A text without `#` holds no comment. -/
theorem endsInComment_of_no_hash (h : ∀ text, piece.text? = some text → '#' ∉ text.toList) :
    piece.endsInComment = false := by
  rw [endsInComment, Option.any_eq_false]
  intro canonical hcanonical
  obtain ⟨text, htext, rfl⟩ := Option.map_eq_some_iff.mp hcanonical
  have hhash : '#' ∉ (Text.collapse text).toList := by
    rw [Text.toList_collapse]
    intro hmem
    rcases Text.mem_collapseFrom hmem with heq | ⟨hmem, -⟩
    · cases heq
    · exact h text htext hmem
  simpa using Scanner.run_ne_comment Mode.noConfusion hhash

/-! ## Several pieces -/

/-- The pieces that are texts. -/
def texts (pieces : List (Source × Document)) : List (Source × Document) :=
  pieces.filter fun piece => !piece.1.isDocument

/-- The pieces that are documents. -/
def readyMade (pieces : List (Source × Document)) : List (Source × Document) :=
  pieces.filter fun piece => piece.1.isDocument

theorem texts_cons_document {piece : Source × Document} {rest : List (Source × Document)}
    (h : piece.1.isDocument = true) : texts (piece :: rest) = texts rest :=
  List.filter_cons_of_neg (by simp [h])

theorem texts_cons_text {piece : Source × Document} {rest : List (Source × Document)}
    (h : piece.1.isDocument = false) : texts (piece :: rest) = piece :: texts rest :=
  List.filter_cons_of_pos (by simp [h])

theorem readyMade_cons_document {piece : Source × Document} {rest : List (Source × Document)}
    (h : piece.1.isDocument = true) : readyMade (piece :: rest) = piece :: readyMade rest :=
  List.filter_cons_of_pos h

theorem readyMade_cons_text {piece : Source × Document} {rest : List (Source × Document)}
    (h : piece.1.isDocument = false) : readyMade (piece :: rest) = readyMade rest :=
  List.filter_cons_of_neg (by simp [h])

/-- Pieces none of which is a document are all texts. -/
theorem texts_eq_self {pieces : List (Source × Document)}
    (h : ∀ piece ∈ pieces, piece.1.isDocument = false) :
    texts pieces = pieces ∧ readyMade pieces = [] :=
  ⟨List.filter_eq_self.mpr fun piece hmem => by simp [h piece hmem],
    List.filter_eq_nil_iff.mpr fun piece hmem => by simp [h piece hmem]⟩

theorem readyMade_eq_self {pieces : List (Source × Document)}
    (h : ∀ piece ∈ pieces, piece.1.isDocument = true) :
    readyMade pieces = pieces ∧ texts pieces = [] :=
  ⟨List.filter_eq_self.mpr h, List.filter_eq_nil_iff.mpr fun piece hmem => by simp [h piece hmem]⟩

/-- The collapsed texts are put together with nothing between them. -/
theorem canonicalText_cons {canonical : String} {rest : List Source}
    (h : piece.canonical? = some canonical) :
    canonicalText (piece :: rest) = canonical ++ canonicalText rest := by
  rw [canonicalText, List.filterMap_cons_some h, String.join_cons]
  rfl

theorem canonicalText_cons_document (hpiece : piece.isDocument = true) (rest : List Source) :
    canonicalText (piece :: rest) = canonicalText rest := by
  cases piece with
  | document ready => rfl
  | text supplied => cases hpiece
  | wrapped supplied => cases hpiece

/-- Documents add nothing to the text. -/
theorem canonicalText_texts (pieces : List (Source × Document)) :
    canonicalText ((texts pieces).map (·.1)) = canonicalText (pieces.map (·.1)) := by
  induction pieces with
  | nil => rfl
  | cons piece rest ih =>
    cases hpiece : piece.1.isDocument with
    | true =>
      rw [texts_cons_document hpiece, List.map_cons, canonicalText_cons_document hpiece, ih]
    | false =>
      obtain ⟨canonical, hcanonical⟩ := exists_canonical hpiece
      rw [texts_cons_text hpiece, List.map_cons, List.map_cons, canonicalText_cons hcanonical,
        canonicalText_cons hcanonical, ih]

/-- The only blank of the collapsed texts is the space. -/
theorem eq_space_of_mem_canonicalText {pieces : List Source} {c : Char}
    (hmem : c ∈ (canonicalText pieces).toList) (hblank : Text.isBlank c = true) : c = ' ' := by
  rw [canonicalText, String.toList_join, List.mem_flatMap] at hmem
  obtain ⟨canonical, hcanonical, hc⟩ := hmem
  obtain ⟨piece, -, hpiece⟩ := List.mem_filterMap.mp hcanonical
  obtain ⟨text, -, rfl⟩ := Option.map_eq_some_iff.mp hpiece
  rw [Text.toList_collapse] at hc
  exact Text.eq_space_of_mem_collapseChars hc hblank

/-- Collapsed texts hold no line ends. -/
theorem no_line_end_of_mem_canonicalText {pieces : List Source} :
    ∀ c ∈ (canonicalText pieces).toList, c ≠ '\r' ∧ c ≠ '\n' := by
  intro c hmem
  constructor <;> rintro rfl <;> cases eq_space_of_mem_canonicalText hmem rfl

/-- The texts that are read of those behind a text: none in a comment, otherwise all up to the
first that ends in one. -/
def heard (inComment : Bool) : List (Source × Document) → List (Source × Document)
  | [] => []
  | piece :: rest => if inComment then [] else piece :: heard piece.1.endsInComment rest

/-- What is heard comes first: a text that ends in a comment hides all texts after it. -/
theorem heard_prefix (inComment : Bool) (pieces : List (Source × Document)) :
    heard inComment pieces <+: pieces := by
  induction pieces generalizing inComment with
  | nil => exact List.prefix_refl _
  | cons piece rest ih =>
    cases inComment with
    | true => exact List.nil_prefix
    | false => exact List.cons_prefix_cons.mpr ⟨rfl, ih _⟩

/-- All texts are heard when none in front of another ends in a comment. -/
theorem heard_eq_self_iff {first : Source × Document} {rest : List (Source × Document)} :
    heard first.1.endsInComment rest = rest ↔
      (first :: rest).Pairwise fun p _ => p.1.endsInComment = false := by
  induction rest generalizing first with
  | nil => simp [heard]
  | cons next rest ih =>
    rw [List.pairwise_cons, ← ih, heard]
    cases first.1.endsInComment with
    | false => simp
    | true =>
      -- the next text is not heard
      constructor
      · intro h
        cases h
      · rintro ⟨hfirst, -⟩
        cases hfirst next (List.mem_cons_self ..)

/-- Texts, each a document by itself, one after the other: the definitions of the first are read
as they are, and those of the others that are heard up to places. The induction is on the texts
behind the first; a comment at its end is the end of all that is read. -/
theorem parse_canonicalText {first : Source × Document} {rest : List (Source × Document)}
    (htexts : ∀ piece ∈ first :: rest, piece.1.isDocument = false)
    (hloads : ∀ piece ∈ first :: rest, piece.1.load = .ok piece.2) :
    ∃ others, Document.parse (canonicalText ((first :: rest).map (·.1))) =
        .ok ⟨first.2.definitions ++ others⟩ ∧
      Document.Alike ⟨others⟩
        ⟨(heard first.1.endsInComment rest).flatMap (·.2.definitions)⟩ := by
  induction rest generalizing first with
  | nil =>
    rw [List.forall_mem_cons] at htexts hloads
    obtain ⟨canonical, hcanonical⟩ := exists_canonical htexts.1
    have hread := parse_of_load hloads.1 hcanonical
    have hnil : canonicalText [] = "" := rfl
    refine ⟨[], ?_, rfl⟩
    rw [List.map_cons, List.map_nil, canonicalText_cons hcanonical, hnil, String.append_empty,
      List.append_nil, hread]
  | cons next rest ih =>
    rw [List.forall_mem_cons] at htexts hloads
    obtain ⟨canonical, hcanonical⟩ := exists_canonical htexts.1
    have hread := parse_of_load hloads.1 hcanonical
    rw [List.map_cons, canonicalText_cons hcanonical]
    cases hends : first.1.endsInComment with
    | true =>
      have hcomment := (endsInComment_of_canonical hcanonical).mp hends
      refine ⟨[], ?_, rfl⟩
      rw [Document.parse_append_comment hcomment no_line_end_of_mem_canonicalText, hread,
        List.append_nil]
    | false =>
      have hbetween : (Scanner.start.run canonical.toList).mode ≠ .comment := by
        rw [← Bool.not_eq_true, endsInComment_of_canonical hcanonical] at hends
        exact hends
      obtain ⟨others, hothers, halike⟩ := ih htexts.2 hloads.2
      obtain ⟨behind, hbehind, hplaces⟩ := Document.parse_append hread hbetween hothers
      exact ⟨behind, hbehind, hplaces.trans (Document.Alike.append rfl halike)⟩

/-! ## Loading -/

/-- Documents that have definitions are not refused. -/
theorem hasEmptyDocument_eq_false {pieces : List Source}
    (h : ∀ piece ∈ pieces, piece.isDocument = false ∨ piece.definitions ≠ []) :
    hasEmptyDocument pieces = false := by
  rw [hasEmptyDocument, List.any_eq_false]
  intro piece hmem
  rcases h piece hmem with hnone | hne
  · simp [hnone]
  · simp [hne]

/-- No document can be read from an empty text. -/
theorem parse_empty : ∃ e, Document.parse "" = .error e := ⟨_, rfl⟩

/-- The definitions in the texts of some pieces, if the texts hold anything. -/
theorem textDefinitions_eq_ok_iff {pieces : List Source} {inText : List Definition} :
    textDefinitions pieces = .ok inText ↔
      (canonicalText pieces = "" ∧ inText = []) ∨
        Document.parse (canonicalText pieces) = .ok ⟨inText⟩ := by
  rw [textDefinitions]
  by_cases hblank : canonicalText pieces = ""
  · -- no document is read from nothing
    obtain ⟨e, he⟩ := parse_empty
    simp [hblank, he, eq_comm]
  · rw [if_neg hblank, parseCanonical]
    rcases Document.parse (canonicalText pieces) with e | ⟨found⟩
    · simp [hblank, Except.map]
    · rw [Except.map, Except.ok.injEq, Except.ok.injEq, Document.mk.injEq]
      simp [hblank]

/-- With fragments, what is loaded are the definitions of the query, those of the texts and those
of the fragments that are documents, unless one of the documents is empty. -/
theorem loadWith_eq_ok_iff {query : Source} {fragments : List Source} {loaded : Document}
    (hfragments : fragments ≠ []) :
    query.loadWith fragments = .ok loaded ↔
      hasEmptyDocument (query :: fragments) = false ∧ loaded.definitions ≠ [] ∧
        ∃ inText, textDefinitions (query :: fragments) = .ok inText ∧
          loaded.definitions = query.definitions ++ inText ++ fragments.flatMap definitions := by
  rw [loadWith, if_neg (by simpa using hfragments)]
  change (if hasEmptyDocument (query :: fragments) = true then _ else _) = _ ↔ _
  cases hasEmptyDocument (query :: fragments) with
  | true => simp
  | false =>
    cases textDefinitions (query :: fragments) with
    | error e => simp [bind, Except.bind]
    | ok inText =>
      obtain ⟨all⟩ := loaded
      simp only [bind, Except.bind, Bool.false_eq_true, if_false, true_and, Except.ok.injEq,
        exists_eq_left']
      cases query.definitions ++ inText ++ fragments.flatMap definitions with
      | nil => simp
      | cons first others =>
        constructor
        · intro h
          cases h
          exact ⟨List.cons_ne_nil _ _, rfl⟩
        · rintro ⟨-, rfl⟩
          rfl

section Loads

variable {query : Source × Document} {pieces fragments : List (Source × Document)}

theorem hasEmptyDocument_of_loads (h : ∀ piece ∈ pieces, piece.1.load = .ok piece.2) :
    hasEmptyDocument (pieces.map (·.1)) = false := by
  refine hasEmptyDocument_eq_false fun source hmem => ?_
  obtain ⟨piece, hpiece, rfl⟩ := List.mem_map.mp hmem
  cases hdocument : piece.1.isDocument with
  | false => exact Or.inl rfl
  | true =>
    obtain ⟨heq, hne⟩ := eq_document_of_load hdocument (h piece hpiece)
    rw [heq]
    exact Or.inr hne

/-- The definitions that come ready made are those of the documents. -/
theorem flatMap_definitions_of_loads (h : ∀ piece ∈ pieces, piece.1.load = .ok piece.2) :
    (pieces.map (·.1)).flatMap definitions = (readyMade pieces).flatMap (·.2.definitions) := by
  induction pieces with
  | nil => rfl
  | cons piece rest ih =>
    rw [List.forall_mem_cons] at h
    rw [List.map_cons, List.flatMap_cons, ih h.2]
    cases hdocument : piece.1.isDocument with
    | false =>
      rw [definitions_of_text hdocument, readyMade_cons_text hdocument, List.nil_append]
    | true =>
      rw [readyMade_cons_document hdocument, List.flatMap_cons,
        definitions_of_document hdocument h.1]

/-- The definitions that the texts hold together: of the first text all, of the others those that
are heard. -/
theorem textDefinitions_of_loads (h : ∀ piece ∈ pieces, piece.1.load = .ok piece.2)
    {first : Source × Document} {rest : List (Source × Document)}
    (htexts : texts pieces = first :: rest) :
    ∃ others, textDefinitions (pieces.map (·.1)) = .ok (first.2.definitions ++ others) ∧
      Document.Alike ⟨others⟩
        ⟨(heard first.1.endsInComment rest).flatMap (·.2.definitions)⟩ := by
  have hmem : ∀ piece ∈ first :: rest, piece ∈ pieces ∧ piece.1.isDocument = false := by
    intro piece hpiece
    rw [← htexts, texts, List.mem_filter] at hpiece
    exact ⟨hpiece.1, by simpa using hpiece.2⟩
  obtain ⟨others, hothers, halike⟩ := parse_canonicalText
    (fun piece hpiece => (hmem piece hpiece).2) fun piece hpiece => h piece (hmem piece hpiece).1
  rw [← htexts, canonicalText_texts] at hothers
  exact ⟨others, textDefinitions_eq_ok_iff.mpr (Or.inr hothers), halike⟩

/-- Without texts there are no definitions from texts. -/
theorem textDefinitions_of_no_text (htexts : texts pieces = []) :
    textDefinitions (pieces.map (·.1)) = .ok [] := by
  have hblank : canonicalText (pieces.map (·.1)) = "" := by
    rw [← canonicalText_texts, htexts]
    rfl
  exact textDefinitions_eq_ok_iff.mpr (Or.inl ⟨hblank, rfl⟩)

/-- With fragments, what is loaded are the definitions of the query, those of the texts and those
of the fragments that are documents. -/
theorem loadWith_of_loads (h : ∀ piece ∈ query :: fragments, piece.1.load = .ok piece.2)
    (hfragments : fragments ≠ []) {inText : List Definition}
    (htexts : textDefinitions ((query :: fragments).map (·.1)) = .ok inText)
    (hne : query.1.definitions ++ inText ≠ []) :
    query.1.loadWith (fragments.map (·.1)) =
      .ok ⟨query.1.definitions ++ inText ++
        (readyMade fragments).flatMap (·.2.definitions)⟩ := by
  rw [← flatMap_definitions_of_loads fun piece hmem => h piece (List.mem_cons_of_mem query hmem)]
  exact (loadWith_eq_ok_iff (by simpa using hfragments)).mpr ⟨hasEmptyDocument_of_loads h,
    List.append_ne_nil_of_left_ne_nil hne _, inText, htexts, rfl⟩

/-- A query and fragments, each of which loads by itself, are loaded to the definitions of the
query, those of the texts among the fragments that are heard behind it, up to places, and those
of the documents among the fragments. -/
theorem loadWith_heard (h : ∀ piece ∈ query :: fragments, piece.1.load = .ok piece.2) :
    ∃ others, query.1.loadWith (fragments.map (·.1)) =
        .ok ⟨query.2.definitions ++ others ++
          (readyMade fragments).flatMap (·.2.definitions)⟩ ∧
      Document.Alike ⟨others⟩
        ⟨(heard query.1.endsInComment (texts fragments)).flatMap (·.2.definitions)⟩ := by
  have hquery := h query (List.mem_cons_self ..)
  have hne := definitions_ne_nil_of_load hquery
  by_cases hfragments : fragments = []
  · -- the query stands alone
    subst hfragments
    refine ⟨[], ?_, rfl⟩
    rw [List.append_nil]
    exact hquery.trans (congrArg Except.ok (congrArg Document.mk (List.append_nil _).symm))
  cases hdocument : query.1.isDocument with
  | true =>
    -- the first text, if there is one, is that of a fragment
    have hdefinitions := definitions_of_document hdocument hquery
    have htexts : texts (query :: fragments) = texts fragments := texts_cons_document hdocument
    rw [endsInComment_of_document hdocument, ← hdefinitions]
    rw [← hdefinitions] at hne
    rcases hcases : texts fragments with _ | ⟨first, rest⟩
    · have hinText := textDefinitions_of_no_text (htexts.trans hcases)
      exact ⟨[], loadWith_of_loads h hfragments hinText
        (List.append_ne_nil_of_left_ne_nil hne _), rfl⟩
    · obtain ⟨others, hinText, halike⟩ := textDefinitions_of_loads h (htexts.trans hcases)
      exact ⟨first.2.definitions ++ others, loadWith_of_loads h hfragments hinText
        (List.append_ne_nil_of_left_ne_nil hne _), Document.Alike.append rfl halike⟩
  | false =>
    obtain ⟨others, hinText, halike⟩ := textDefinitions_of_loads h (texts_cons_text hdocument)
    have hloads := loadWith_of_loads h hfragments hinText
    rw [definitions_of_text hdocument, List.nil_append] at hloads
    exact ⟨others, hloads (List.append_ne_nil_of_left_ne_nil hne _), halike⟩

end Loads

end Source

end Refetch
