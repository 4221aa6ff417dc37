import Mathlib
import Refetch.Proofs.Isolation
import Refetch.Proofs.Source.Composing

/-!
# What is kept of a query and its fragments

Without comments nothing is lost when pieces are put together, and the definitions of the query
come first. A comment at the end of a text in front of another loses that text, and a query that
is no document by itself may leave the first place to a fragment.

* `Source.loadWith_concat` — without comments, the definitions of all pieces, piece by piece
* `Source.loadWith_length_iff` — when none of their definitions is lost
* `Source.loadWith_leads_iff` — when the definitions of the query come first
-/

namespace Refetch

namespace Source

/-! ## Nothing is lost -/

section Heard

variable {query : Source × Document} {pieces fragments : List (Source × Document)}

/-- A document does not end in a comment, so the texts among some pieces are all that counts. -/
theorem pairwise_texts_iff :
    ((query :: texts fragments).Pairwise fun p _ => p.1.endsInComment = false) ↔
      (query :: fragments).Pairwise fun p q =>
        q.1.isDocument = false → p.1.endsInComment = false := by
  rw [List.pairwise_cons, List.pairwise_cons, texts, List.pairwise_filter]
  refine and_congr (by simp) (List.Pairwise.iff fun p q => ?_)
  cases hdocument : p.1.isDocument with
  | true => simp [endsInComment_of_document hdocument]
  | false => simp

/-- A definition at least is lost with every text that is not heard. -/
theorem length_heard_iff (h : ∀ piece ∈ pieces, piece.2.definitions ≠ []) (inComment : Bool) :
    ((heard inComment pieces).flatMap (·.2.definitions)).length =
        (pieces.flatMap (·.2.definitions)).length ↔
      heard inComment pieces = pieces := by
  constructor
  · obtain ⟨lost, hlost⟩ := heard_prefix inComment pieces
    generalize heard inComment pieces = found at hlost ⊢
    subst hlost
    intro hlength
    have hnone : lost.flatMap (·.2.definitions) = [] := by
      rw [List.flatMap_append, List.length_append] at hlength
      exact List.length_eq_zero_iff.mp (by omega)
    cases lost with
    | nil => exact (List.append_nil found).symm
    | cons piece rest =>
      rw [List.flatMap_cons, List.append_eq_nil_iff] at hnone
      exact absurd hnone.1 (h piece (by simp))
  · intro heq
    rw [heq]

/-- Texts and documents together are all pieces. -/
theorem length_texts_readyMade (pieces : List (Source × Document)) :
    ((texts pieces).flatMap (·.2.definitions)).length +
        ((readyMade pieces).flatMap (·.2.definitions)).length =
      (pieces.flatMap (·.2.definitions)).length := by
  have hperm := List.filter_append_perm (fun piece => piece.1.isDocument) pieces
  have hlength := (hperm.flatMap_right (·.2.definitions)).length_eq
  rw [List.flatMap_append, List.length_append] at hlength
  rw [← hlength, Nat.add_comm]
  rfl

/-- A query and fragments, each of which loads by itself, with no `#` in a text that has another
text behind it, are loaded to the definitions of all of them, each once: those of the query, those
of the texts, those of the documents. Only in the texts of fragments are they at other places. -/
theorem loadWith_concat (h : ∀ piece ∈ query :: fragments, piece.1.load = .ok piece.2)
    (hhash : (query :: fragments).Pairwise fun p q => q.1.isDocument = false →
      ∀ text, p.1.text? = some text → '#' ∉ text.toList) :
    ∃ others, query.1.loadWith (fragments.map (·.1)) =
        .ok ⟨query.2.definitions ++ others ++
          (readyMade fragments).flatMap (·.2.definitions)⟩ ∧
      Document.Alike ⟨others⟩ ⟨(texts fragments).flatMap (·.2.definitions)⟩ := by
  obtain ⟨others, hloaded, halike⟩ := loadWith_heard h
  have hcomment : (query :: fragments).Pairwise fun p q =>
      q.1.isDocument = false → p.1.endsInComment = false :=
    hhash.imp fun hhash htext => endsInComment_of_no_hash (hhash htext)
  rw [heard_eq_self_iff.mpr (pairwise_texts_iff.mpr hcomment)] at halike
  exact ⟨others, hloaded, halike⟩

/-- A query for one field. -/
def fieldQuery : String := "\x7bpage\x7ba\x7d\x7d"

/-- The same query with a comment behind it. -/
def remarkedQuery : String := "\x7bpage\x7ba\x7d\x7d # the page\n"

/-- A fragment. -/
def fragmentOnT : String := "fragment F on T\x7bpage\x7ba\x7d\x7d"

/-- The same fragment with a comment behind it. -/
def remarkedFragment : String := "fragment F on T\x7bpage\x7ba\x7d\x7d # the page\n"

theorem load_fieldQuery : ∃ d, (Source.text fieldQuery).load = .ok d := ⟨_, by cbv⟩

theorem load_remarkedQuery : ∃ d, (Source.text remarkedQuery).load = .ok d := ⟨_, by cbv⟩

theorem load_fragmentOnT : ∃ d, (Source.text fragmentOnT).load = .ok d := ⟨_, by cbv⟩

theorem load_remarkedFragment : ∃ d, (Source.wrapped remarkedFragment).load = .ok d :=
  ⟨_, by cbv⟩

/-- A query with a document and, as the last text, a fragment that ends in a comment. -/
theorem loadWith_concat_of_last_remarked :
    ∃ d e others, (Source.text fieldQuery).load = .ok d ∧
      (Source.wrapped remarkedFragment).load = .ok e ∧
      (Source.text fieldQuery).loadWith [.document e, .wrapped remarkedFragment] =
        .ok ⟨d.definitions ++ others ++ e.definitions⟩ ∧
      Document.Alike ⟨others⟩ e := by
  obtain ⟨d, hd⟩ := load_fieldQuery
  obtain ⟨e, he⟩ := load_remarkedFragment
  have hloads : ∀ piece ∈ [(Source.text fieldQuery, d), (.document e, e),
      (.wrapped remarkedFragment, e)], piece.1.load = .ok piece.2 := by
    simp [hd, he, load_document (definitions_ne_nil_of_load he)]
  have hhash : '#' ∉ fieldQuery.toList := by decide
  obtain ⟨others, hloaded, halike⟩ := loadWith_concat hloads (by simp [text?, isDocument, hhash])
  exact ⟨d, e, others, hd, he, by simpa [readyMade, isDocument] using hloaded,
    by simpa [texts, isDocument] using halike⟩

/-- A query and fragments, each of which loads by itself, are always loaded, and to as many
definitions as they have together exactly when no text in front of another text ends in a
comment. -/
theorem loadWith_length_iff (h : ∀ piece ∈ query :: fragments, piece.1.load = .ok piece.2) :
    ∃ loaded, query.1.loadWith (fragments.map (·.1)) = .ok loaded ∧
      (loaded.definitions.length =
          ((query :: fragments).flatMap (·.2.definitions)).length ↔
        (query :: fragments).Pairwise fun p q =>
          q.1.isDocument = false → p.1.endsInComment = false) := by
  obtain ⟨others, hloaded, halike⟩ := loadWith_heard h
  refine ⟨_, hloaded, ?_⟩
  have hne : ∀ piece ∈ texts fragments, piece.2.definitions ≠ [] := by
    intro piece hmem
    have hpiece := (List.mem_filter.mp hmem).1
    exact definitions_ne_nil_of_load (h piece (List.mem_cons_of_mem _ hpiece))
  rw [← pairwise_texts_iff, ← heard_eq_self_iff, ← length_heard_iff hne, ← halike.length_eq,
    List.flatMap_cons]
  simp only [List.length_append, ← length_texts_readyMade fragments]
  omega

/-- A comment at the end of the last text loses nothing. -/
theorem loadWith_length_of_last_remarked :
    ∃ d e loaded, (Source.text fieldQuery).load = .ok d ∧
      (Source.wrapped remarkedFragment).load = .ok e ∧
      (Source.text fieldQuery).loadWith [.wrapped remarkedFragment, .document e] = .ok loaded ∧
      loaded.definitions.length =
        d.definitions.length + (e.definitions.length + e.definitions.length) := by
  obtain ⟨d, hd⟩ := load_fieldQuery
  obtain ⟨e, he⟩ := load_remarkedFragment
  have hloads : ∀ piece ∈ [(Source.text fieldQuery, d), (.wrapped remarkedFragment, e),
      (.document e, e)], piece.1.load = .ok piece.2 := by
    simp [hd, he, load_document (definitions_ne_nil_of_load he)]
  have hplain : (Source.text fieldQuery).endsInComment = false := by decide
  obtain ⟨loaded, hloaded, hlength⟩ := loadWith_length_iff hloads
  refine ⟨d, e, loaded, hd, he, hloaded, ?_⟩
  rw [hlength.mpr (by simp [hplain, isDocument])]
  simp

/-- A comment at the end of a query, closed by a line end, makes the fragment behind it part of
the comment, although both load by themselves. -/
theorem loadWith_remarked_query :
    ∃ d e, (Source.text remarkedQuery).load = .ok d ∧ (Source.text fragmentOnT).load = .ok e ∧
      (Source.text remarkedQuery).loadWith [.text fragmentOnT] = .ok d ∧
      d.definitions.length ≠ (d.definitions ++ e.definitions).length := by
  obtain ⟨d, hd⟩ := load_remarkedQuery
  obtain ⟨e, he⟩ := load_fragmentOnT
  have hloads : ∀ piece ∈ [(Source.text remarkedQuery, d), (.text fragmentOnT, e)],
      piece.1.load = .ok piece.2 := by
    simp [hd, he]
  have hcomment : (Source.text remarkedQuery).endsInComment = true := by decide
  obtain ⟨others, hloaded, halike⟩ := loadWith_heard hloads
  have hnone : others = [] := by
    have hlength := halike.length_eq
    simpa [texts, isDocument, heard, hcomment] using hlength
  refine ⟨d, e, hd, he, ?_, ?_⟩
  · simpa [hnone, readyMade, isDocument] using hloaded
  · simpa using definitions_ne_nil_of_load he

end Heard

/-! ## The query comes first -/

/-- Behind the text of a query that is a document nothing changes its definitions. -/
theorem exists_load_prefix {query : Source} {fragments : List Source} {loaded : Document}
    (h : query.loadWith fragments = .ok loaded)
    (hreads : ∀ canonical, query.canonical? = some canonical →
      ∃ d, Document.parse canonical = .ok d) :
    ∃ d, query.load = .ok d ∧ d.definitions <+: loaded.definitions := by
  by_cases hfragments : fragments = []
  · subst hfragments
    exact ⟨loaded, h, List.prefix_refl _⟩
  obtain ⟨hempty, -, inText, htexts, hall⟩ := (loadWith_eq_ok_iff hfragments).mp h
  cases hdocument : query.isDocument with
  | true =>
    cases query with
    | document ready =>
      rw [hasEmptyDocument, List.any_cons, Bool.or_eq_false_iff] at hempty
      refine ⟨ready, if_neg (by simpa [isDocument, definitions] using hempty.1), ?_⟩
      rw [hall, List.append_assoc]
      exact List.prefix_append ..
    | _ => cases hdocument
  | false =>
    obtain ⟨canonical, hcanonical⟩ := exists_canonical hdocument
    obtain ⟨d, hread⟩ := hreads canonical hcanonical
    refine ⟨d, load_of_canonical hcanonical hread, ?_⟩
    rw [hall, definitions_of_text hdocument, List.nil_append]
    refine List.IsPrefix.trans ?_ (List.prefix_append ..)
    rcases textDefinitions_eq_ok_iff.mp htexts with ⟨hblank, -⟩ | hwhole
    · -- a query without text is no document
      rw [canonicalText_cons hcanonical, String.append_eq_empty_iff] at hblank
      rw [hblank.1] at hread
      cases hread
    · rw [canonicalText_cons hcanonical] at hwhole
      exact Document.parse_append_prefix hread hwhole

/-- What is loaded starts with the definitions of the query, and narrowing it narrows the query,
exactly when the query is a document, or a text that by itself is one once its blanks are
collapsed. -/
theorem loadWith_leads_iff {query : Source} {fragments : List Source} {loaded : Document}
    (h : query.loadWith fragments = .ok loaded) :
    (∃ d behind, query.load = .ok d ∧ loaded = ⟨d.definitions ++ behind⟩ ∧
        ∀ root, loaded.isolate root =
          (d.isolate root).map fun narrowed => ⟨narrowed.definitions ++ behind⟩) ↔
      ∀ canonical, query.canonical? = some canonical → ∃ d, Document.parse canonical = .ok d := by
  constructor
  · rintro ⟨d, behind, hquery, -, -⟩ canonical hcanonical
    exact ⟨d, parse_of_load hquery hcanonical⟩
  · intro hreads
    obtain ⟨d, hquery, behind, hbehind⟩ := exists_load_prefix h hreads
    obtain ⟨all⟩ := loaded
    obtain rfl : d.definitions ++ behind = all := hbehind
    exact ⟨d, behind, hquery, rfl,
      Document.isolate_append (definitions_ne_nil_of_load hquery) behind⟩

/-- A query with a fragment behind it, both of them texts. -/
theorem loadWith_leads_of_field :
    ∃ loaded d behind, (Source.text fieldQuery).loadWith [.text fragmentOnT] = .ok loaded ∧
      (Source.text fieldQuery).load = .ok d ∧ loaded = ⟨d.definitions ++ behind⟩ ∧
      ∀ root, loaded.isolate root =
        (d.isolate root).map fun narrowed => ⟨narrowed.definitions ++ behind⟩ := by
  obtain ⟨d, hd⟩ := load_fieldQuery
  obtain ⟨e, he⟩ := load_fragmentOnT
  have hloads : ∀ piece ∈ [(Source.text fieldQuery, d), (.text fragmentOnT, e)],
      piece.1.load = .ok piece.2 := by
    simp [hd, he]
  obtain ⟨others, hloaded, -⟩ := loadWith_heard hloads
  have hreads : ∀ canonical, (Source.text fieldQuery).canonical? = some canonical →
      ∃ d, Document.parse canonical = .ok d :=
    fun _ hcanonical => ⟨d, parse_of_load hd hcanonical⟩
  obtain ⟨d, behind, hleads⟩ := (loadWith_leads_iff hloaded).mpr hreads
  exact ⟨_, d, behind, hloaded, hleads⟩

/-- What the fragment is read to, with these selections. -/
def documentOnT (set : SelectionSet) : Document := ⟨[⟨.fragment ⟨1, 1⟩ "F" "T" [], set⟩]⟩

/-- With a query that is an empty text, which is no document, the fragment comes first, and
narrowing narrows the fragment. -/
theorem loadWith_empty_query :
    ∃ set narrowed, (Source.text "").loadWith [.text fragmentOnT] = .ok (documentOnT set) ∧
      (∀ d, (Source.text "").load ≠ .ok d) ∧
      (documentOnT set).isolate "page" = .ok (documentOnT narrowed) := by
  let narrowed : SelectionSet :=
    ⟨⟨⟨1, 21⟩, ⟨1, 23⟩⟩, [.field ⟨⟨1, 22⟩, none, "a", [], []⟩ ⟨⟨1, 22⟩, ⟨1, 22⟩⟩ []]⟩
  let set : SelectionSet :=
    ⟨⟨⟨1, 16⟩, ⟨1, 24⟩⟩, [.field ⟨⟨1, 17⟩, none, "page", [], []⟩ narrowed.span narrowed.items]⟩
  have hread : Document.parse fragmentOnT = .ok (documentOnT set) := by cbv
  have hcanonical : canonicalText [.text "", .text fragmentOnT] = fragmentOnT := by decide
  have hempty : ∀ d, (Source.text "").load ≠ .ok d := by
    intro d h
    cases h
  refine ⟨set, narrowed, ?_, hempty, rfl⟩
  refine (loadWith_eq_ok_iff (List.cons_ne_nil _ _)).mpr
    ⟨rfl, List.cons_ne_nil _ _, (documentOnT set).definitions, ?_, rfl⟩
  exact textDefinitions_eq_ok_iff.mpr (Or.inr (by rw [hcanonical]; exact hread))

end Source

end Refetch
