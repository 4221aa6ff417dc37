import Refetch.Proofs.Source.Composing
import Refetch.Proofs.Source.Loading

/-!
# Handing a query over as text or as a document

The pieces of a request may be texts, which are collapsed, put one after the other and read at
once, or documents, each of which was read by itself. Where the texts hold neither comments nor
quotes the two come to the same.

* `Source.loadWith_texts` — texts are loaded to the definitions of all of them
* `Adapter.adapt_texts_agrees` — a request of texts and the request of the documents they hold are
  adapted alike
-/

namespace Refetch

namespace Source

/-- The piece is a text, without `#` and quotes, that by itself is read to the document. -/
def ReadsAs (piece : Source) (d : Document) : Prop :=
  ∃ text, piece.text? = some text ∧ '#' ∉ text.toList ∧ '"' ∉ text.toList ∧
    Document.parse text = .ok d

/-! ## One text -/

section ReadsAs

variable {piece : Source} {d : Document}

theorem ReadsAs.definitions_ne_nil (h : piece.ReadsAs d) : d.definitions ≠ [] := by
  obtain ⟨text, -, -, -, hread⟩ := h
  exact Grammar.document_definitions_ne_nil (Document.ofScan_eq_ok_iff.mp hread).2

theorem ReadsAs.isDocument_eq_false (h : piece.ReadsAs d) : piece.isDocument = false := by
  obtain ⟨text, htext, -⟩ := h
  cases piece with
  | document ready => cases htext
  | _ => rfl

theorem ReadsAs.endsInComment_eq_false (h : piece.ReadsAs d) : piece.endsInComment = false := by
  obtain ⟨text, htext, hhash, -⟩ := h
  refine endsInComment_of_no_hash fun text' htext' => ?_
  obtain rfl := Option.some.inj (htext.symm.trans htext')
  exact hhash

/-- By itself the text is loaded to its document, up to places. -/
theorem ReadsAs.load (h : piece.ReadsAs d) : ∃ e, piece.load = .ok e ∧ e.Alike d := by
  obtain ⟨text, htext, hhash, hquote, hread⟩ := h
  have hsettled : collapseLiterals text = text := by
    rw [collapseLiterals, Scanner.collapseLiteralsFrom_of_no_quote rfl hquote, String.ofList_toList]
  obtain ⟨e, he, halike, -⟩ := Document.parse_collapse hhash hsettled hread
  exact ⟨e, load_of_canonical (by rw [canonical?, htext]; rfl) he, halike⟩

end ReadsAs

/-! ## Several texts, several documents -/

variable {pieces : List (Source × Document)}

/-- Texts with the documents they read as, and with those they are loaded to. -/
theorem exists_loads (h : ∀ piece ∈ pieces, piece.1.ReadsAs piece.2) :
    ∃ loads : List (Source × Document), loads.map (·.1) = pieces.map (·.1) ∧
      (∀ piece ∈ loads, piece.1.load = .ok piece.2 ∧ piece.1.isDocument = false ∧
        piece.1.endsInComment = false) ∧
      Document.Alike ⟨loads.flatMap (·.2.definitions)⟩ ⟨pieces.flatMap (·.2.definitions)⟩ := by
  induction pieces with
  | nil => exact ⟨[], rfl, fun _ hmem => absurd hmem List.not_mem_nil, rfl⟩
  | cons piece rest ih =>
    rw [List.forall_mem_cons] at h
    obtain ⟨e, he, halike⟩ := h.1.load
    obtain ⟨loads, hsources, hloads, hrest⟩ := ih h.2
    refine ⟨(piece.1, e) :: loads, by rw [List.map_cons, List.map_cons, hsources], ?_, ?_⟩
    · exact List.forall_mem_cons.mpr
        ⟨⟨he, h.1.isDocument_eq_false, h.1.endsInComment_eq_false⟩, hloads⟩
    · exact Document.Alike.append halike hrest

/-- Pieces that are texts are loaded to the definitions of all of them, up to places. -/
theorem loadWith_texts {query : Source × Document} {fragments : List (Source × Document)}
    (h : ∀ piece ∈ query :: fragments, piece.1.ReadsAs piece.2) :
    ∃ loaded, query.1.loadWith (fragments.map (·.1)) = .ok loaded ∧
      loaded.Alike ⟨(query :: fragments).flatMap (·.2.definitions)⟩ := by
  obtain ⟨_ | ⟨first, rest⟩, hsources, hloads, halike⟩ := exists_loads h
  · cases hsources
  obtain ⟨hquery, hfragments⟩ : first.1 = query.1 ∧ rest.map (·.1) = fragments.map (·.1) :=
    List.cons.inj hsources
  rw [← hquery, ← hfragments]
  obtain ⟨others, hloaded, hothers⟩ := loadWith_heard fun piece hmem => (hloads piece hmem).1
  -- all pieces are texts, and all of them are heard
  obtain ⟨htexts, hready⟩ := texts_eq_self fun piece hmem =>
    (hloads piece (List.mem_cons_of_mem first hmem)).2.1
  have hheard : heard first.1.endsInComment rest = rest :=
    heard_eq_self_iff.mpr (List.pairwise_of_forall_mem_list fun piece hmem _ _ =>
      (hloads piece hmem).2.2)
  rw [hready, List.flatMap_nil, List.append_nil] at hloaded
  rw [htexts, hheard] at hothers
  exact ⟨_, hloaded, (Document.Alike.append rfl hothers).trans halike⟩

/-- Pieces that are documents are loaded to the definitions of all of them. -/
theorem loadWith_documents {query : Document} {fragments : List Document}
    (h : ∀ d ∈ query :: fragments, d.definitions ≠ []) :
    (Source.document query).loadWith (fragments.map .document) =
      .ok ⟨(query :: fragments).flatMap (·.definitions)⟩ := by
  have hloads : ∀ piece ∈ (query :: fragments).map fun d => (Source.document d, d),
      piece.1.load = .ok piece.2 := by
    intro piece hmem
    obtain ⟨d, hd, rfl⟩ := List.mem_map.mp hmem
    exact load_document (h d hd)
  obtain ⟨others, hloaded, hothers⟩ := loadWith_heard hloads
  have hdocument : ∀ piece ∈ fragments.map fun d => (Source.document d, d),
      piece.1.isDocument = true := by
    intro piece hmem
    obtain ⟨d, -, rfl⟩ := List.mem_map.mp hmem
    rfl
  obtain ⟨hready, htexts⟩ := readyMade_eq_self hdocument
  rw [htexts] at hothers
  obtain rfl := List.length_eq_zero_iff.mp hothers.length_eq
  rw [hready, List.map_map, List.flatMap_map, List.append_nil] at hloaded
  exact hloaded

end Source

/-! ## Adapting -/

/-- Do two outcomes report the same, with no query in either, or with queries that are equal up to
places and printed the same? -/
def Outcome.Agrees (o o' : Outcome) : Prop :=
  o.diagnostics = o'.diagnostics ∧
    ((o.document? = none ∧ o'.document? = none) ∨
      ∃ d d', o.document? = some d ∧ o'.document? = some d' ∧ d.Alike d' ∧ d.print = d'.print)

namespace Adapter

/-- Documents that are equal up to places are adapted alike. -/
theorem adaptDocument_agrees (a : Adapter) {d d' : Document} (h : d.Alike d') :
    (a.adaptDocument d).Agrees (a.adaptDocument d') := by
  have hrelabel : (a.adaptDocument d).relabel .unplacing =
      (a.adaptDocument d').relabel .unplacing :=
    calc (a.adaptDocument d).relabel .unplacing
      _ = a.adaptDocument d.unplaced := (adaptDocument_relabel _ a d).symm
      _ = a.adaptDocument d'.unplaced := by rw [h]
      _ = (a.adaptDocument d').relabel .unplacing := adaptDocument_relabel _ a d'
  have hdiagnostics := congrArg Outcome.diagnostics hrelabel
  rw [Outcome.diagnostics_relabel, Outcome.diagnostics_relabel] at hdiagnostics
  refine ⟨hdiagnostics, ?_⟩
  -- a relabelled outcome is skipped or adapted as the outcome itself is
  cases ho : a.adaptDocument d with
  | skipped reason =>
    rw [ho] at hrelabel
    cases ho' : a.adaptDocument d' with
    | skipped reason' => exact Or.inl ⟨rfl, rfl⟩
    | adapted o' => rw [ho'] at hrelabel; cases hrelabel
  | adapted o =>
    rw [ho] at hrelabel
    cases ho' : a.adaptDocument d' with
    | skipped reason' => rw [ho'] at hrelabel; cases hrelabel
    | adapted o' =>
      rw [ho'] at hrelabel
      have halike : o.Alike o' := Outcome.adapted.inj hrelabel
      exact Or.inr ⟨o, o', rfl, rfl, halike, halike.print_eq⟩

/-- A request whose pieces are texts, without `#` and quotes and each a document by itself, and the
request whose pieces are those documents are both loaded, and adapted alike. -/
theorem adapt_texts_agrees (a : Adapter) (query : Source × Document)
    (fragments : List (Source × Document))
    (h : ∀ piece ∈ query :: fragments, piece.1.ReadsAs piece.2) :
    ∃ fromTexts fromDocuments,
      a.adapt ⟨query.1, fragments.map (·.1)⟩ = .ok fromTexts ∧
        a.adapt ⟨.document query.2, fragments.map (.document ·.2)⟩ = .ok fromDocuments ∧
          fromTexts.Agrees fromDocuments := by
  obtain ⟨loaded, hloaded, halike⟩ := Source.loadWith_texts h
  have hdocuments : (Source.document query.2).loadWith (fragments.map (.document ·.2)) =
      .ok ⟨(query :: fragments).flatMap (·.2.definitions)⟩ := by
    have hne : ∀ d ∈ query.2 :: fragments.map (·.2), d.definitions ≠ [] := by
      intro d hmem
      rw [← List.map_cons (f := Prod.snd)] at hmem
      obtain ⟨piece, hpiece, rfl⟩ := List.mem_map.mp hmem
      exact (h piece hpiece).definitions_ne_nil
    have hload := Source.loadWith_documents hne
    rw [List.map_map, ← List.map_cons (f := Prod.snd), List.flatMap_map] at hload
    exact hload
  refine ⟨a.adaptDocument loaded, a.adaptDocument _, ?_, ?_, adaptDocument_agrees a halike⟩
  · rw [adapt, hloaded]
    rfl
  · rw [adapt, hdocuments]
    rfl

/-- A query over more than one line. -/
def pageQuery : String := "\x7bpage \x7b\n  ...F\n\x7d\x7d"

/-- A fragment for it, with tabs and commas. -/
def pageFragment : String := "fragment F on T \x7b\n\ta,\n\tbSharp \x7d"

theorem exists_parse_pageQuery : ∃ d, Document.parse pageQuery = .ok d := ⟨_, by cbv⟩

theorem exists_parse_pageFragment : ∃ e, Document.parse pageFragment = .ok e := ⟨_, by cbv⟩

/-- A query and a fragment, one of them wrapped, both over more than one line. -/
theorem adapt_texts_agrees_of_lines :
    ∃ d e fromTexts fromDocuments,
      Document.parse pageQuery = .ok d ∧
        Document.parse pageFragment = .ok e ∧
        (configured .default "page" "").adapt
          ⟨.text pageQuery, [.wrapped pageFragment]⟩ =
            .ok fromTexts ∧
        (configured .default "page" "").adapt ⟨.document d, [.document e]⟩ = .ok fromDocuments ∧
        fromTexts.Agrees fromDocuments := by
  obtain ⟨d, hd⟩ := exists_parse_pageQuery
  obtain ⟨e, he⟩ := exists_parse_pageFragment
  have hreads : ∀ piece ∈ [(Source.text pageQuery, d),
      (Source.wrapped pageFragment, e)], piece.1.ReadsAs piece.2 := by
    intro piece hmem
    rcases List.mem_cons.mp hmem with rfl | hmem
    · exact ⟨_, rfl, by decide, by decide, hd⟩
    · obtain rfl := List.mem_singleton.mp hmem
      exact ⟨_, rfl, by decide, by decide, he⟩
  obtain ⟨fromTexts, fromDocuments, htexts, hdocuments, hagrees⟩ :=
    adapt_texts_agrees (configured .default "page" "") _ _ hreads
  exact ⟨d, e, fromTexts, fromDocuments, hd, he, htexts, hdocuments, hagrees⟩

end Adapter

end Refetch
