import Refetch.Proofs.Document.Carrying
import Refetch.Proofs.Document.Scanning

/-!
# Documents one after the other

The text of a document ends with a closing brace, so at its end a scanner is between two lexemes
or in a comment. In the first case what is put behind the text is read as if it stood alone; in
the second it is part of the comment, up to the end of the line.

* `Document.parse_append` — two documents one after the other are one, with the definitions of both
* `Document.parse_append_comment` — behind a comment nothing more is read
* `Document.parse_append_prefix` — whatever comes behind a document, its definitions stay in front
-/

namespace Refetch

namespace Document

/-! ## Definitions equal up to places -/

theorem Alike.length_eq {d e : Document} (h : d.Alike e) :
    d.definitions.length = e.definitions.length := by
  have hmap : d.definitions.map (·.relabel .unplacing) =
      e.definitions.map (·.relabel .unplacing) := Document.mk.inj h
  have hlength := congrArg List.length hmap
  rwa [List.length_map, List.length_map] at hlength

/-- Documents that are alike stay so with the definitions of others behind them. -/
theorem Alike.append {front front' tail tail' : List Definition}
    (h : Alike ⟨front⟩ ⟨front'⟩) (h' : Alike ⟨tail⟩ ⟨tail'⟩) :
    Alike ⟨front ++ tail⟩ ⟨front' ++ tail'⟩ := by
  have hfront : front.map (·.relabel .unplacing) = front'.map (·.relabel .unplacing) :=
    Document.mk.inj h
  have htail : tail.map (·.relabel .unplacing) = tail'.map (·.relabel .unplacing) :=
    Document.mk.inj h'
  simp only [Alike, unplaced, relabel, List.map_append, hfront, htail]

/-! ## Texts behind a document -/

variable {front tail : String} {d e : Document}

/-- The last lexeme of a document is a brace, so none is under way at the end of its text. -/
theorem between_or_comment_of_parse (h : parse front = .ok d) :
    (Scanner.start.run front.toList).mode = .between ∨
      (Scanner.start.run front.toList).mode = .comment := by
  obtain ⟨hcomplete, hd⟩ := ofScan_eq_ok_iff.mp h
  obtain ⟨lexemes, pos, hends⟩ := Grammar.document_ends hd
  exact Scanner.mode_of_ends hcomplete hends

/-- A document that does not end in a comment, with another behind it: the definitions of the
first are read as they were, and those of the second up to places. -/
theorem parse_append (h : parse front = .ok d)
    (hends : (Scanner.start.run front.toList).mode ≠ .comment) (h' : parse tail = .ok e) :
    ∃ others, parse (front ++ tail) = .ok ⟨d.definitions ++ others⟩ ∧ Alike ⟨others⟩ e := by
  have hbetween := (between_or_comment_of_parse h).resolve_right hends
  obtain ⟨-, hd⟩ := ofScan_eq_ok_iff.mp h
  obtain ⟨hcomplete, he⟩ := ofScan_eq_ok_iff.mp h'
  obtain ⟨hread, more, hlexemes, hmore⟩ := Scan.ofChars_append tail.toList hbetween
  obtain ⟨others, hothers, halike⟩ := Grammar.document_congr hmore.symm he
  refine ⟨others.definitions, ?_, halike.symm⟩
  rw [parse, ofChars, ofScan_eq_ok_iff, String.toList_append, hlexemes]
  exact ⟨hread.trans hcomplete, Grammar.document_append hd hothers⟩

/-- A text that ends in a comment, with more of the same line behind it. -/
theorem parse_append_comment (hends : (Scanner.start.run front.toList).mode = .comment)
    (htail : ∀ c ∈ tail.toList, c ≠ '\r' ∧ c ≠ '\n') : parse (front ++ tail) = parse front := by
  rw [parse, parse, ofChars, ofChars, String.toList_append, Scan.ofChars, Scanner.run_append,
    Scanner.run_comment hends htail, Scan.ofChars]

/-- Whatever comes behind a document: if there is a document with it, that starts with the
definitions of the first. -/
theorem parse_append_prefix (h : parse front = .ok d) (h' : parse (front ++ tail) = .ok e) :
    d.definitions <+: e.definitions := by
  obtain ⟨more, hmore⟩ := Scan.lexemes_prefix tail.toList (between_or_comment_of_parse h)
  obtain ⟨-, hd⟩ := ofScan_eq_ok_iff.mp h
  obtain ⟨-, he⟩ := ofScan_eq_ok_iff.mp h'
  rw [String.toList_append, ← hmore] at he
  exact Grammar.document_append_prefix hd he

end Document

end Refetch
