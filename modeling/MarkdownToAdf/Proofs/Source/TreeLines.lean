import MarkdownToAdf.Proofs.Format.TreeRows
import MarkdownToAdf.Proofs.Markdown.ScannedSpans
import MarkdownToAdf.Proofs.Source.Cards

set_option autoImplicit false

/-!
# The lines of a converted document

The tree text of a converted document has one line for each node, and besides as many as the
addresses of its cards have line feeds. A card shows its address as the label of a link, and only
a reference puts a line feed into a label.
-/
namespace MarkdownToAdf.Source
open Adf Format Markdown

mutual

theorem feed_not_mem_spanText : (s : Span) → s.All Span.OnLine → '\n' ∉ (spanText s).toList
  | .text _, h | .code _, h => h
  | .softBreak, _ | .hardBreak, _ | .html _, _ => by
    rw [spanText]
    decide
  | .emph children, h | .strong children, h | .strike children, h | .link _ _ children, h
  | .image _ children, h | .other _ children, h => feed_not_mem_spansText children h.2

theorem feed_not_mem_spansText :
    (spans : List Span) → AllIn Span.OnLine spans → '\n' ∉ (spansText spans).toList
  | [], _ => by
    rw [spansText]
    decide
  | s :: r, h => by
    rw [spansText, String.toList_append, List.mem_append, not_or]
    exact ⟨feed_not_mem_spanText s h.1, feed_not_mem_spansText r h.2⟩

end

mutual

theorem feed_not_mem_spanLinks (table : LineTable) :
    (s : Span) → s.All Span.OnLine → ∀ l ∈ spanLinks table s, '\n' ∉ l.label.toList
  | .text _, _ | .softBreak, _ | .hardBreak, _ | .code _, _ | .html _, _ | .image _ _, _ =>
    List.forall_mem_nil _
  | .emph children, h | .strong children, h | .strike children, h | .other _ children, h =>
    feed_not_mem_spansLinks table children h.2
  | .link destination position children, h => by
    have hchildren := feed_not_mem_spansLinks table children h.2
    rw [spanLinks]
    refine List.forall_mem_cons.2 ⟨feed_not_mem_spansText children h.2, ?_⟩
    split
    · exact List.forall_mem_nil _
    · exact hchildren

theorem feed_not_mem_spansLinks (table : LineTable) :
    (spans : List Span) → AllIn Span.OnLine spans →
      ∀ l ∈ spansLinks table spans, '\n' ∉ l.label.toList
  | [], _ => List.forall_mem_nil _
  | s :: r, h => by
    rw [spansLinks]
    exact List.forall_mem_append.2
      ⟨feed_not_mem_spanLinks table s h.1, feed_not_mem_spansLinks table r h.2⟩

end

theorem Link.feed_not_mem_page {table : LineTable} {l : Link} {url : String}
    (hpage : l.page? table = some url) (h : '\n' ∉ l.label.toList) : '\n' ∉ url.toList := by
  have hprefix (scheme : String) (hscheme : '\n' ∉ scheme.toList) :
      '\n' ∉ (scheme ++ l.label).toList := by
    rw [String.toList_append, List.mem_append, not_or]
    exact ⟨hscheme, h⟩
  unfold Link.page? at hpage
  split at hpage
  · rename_i hshown
    cases hpage
    simp only [Link.showsPage, Link.showsAddress, Source.showsAddress, Bool.and_eq_true,
      Bool.or_eq_true, beq_iff_eq] at hshown
    obtain ⟨⟨(hurl | hurl) | hurl, -⟩, -⟩ := hshown
    · rwa [hurl]
    · rw [hurl]
      exact hprefix "mailto:" (by decide)
    · rw [hurl]
      exact hprefix "http://" (by decide)
  · cases hpage

theorem feed_not_mem_card (e : Extensions) {text : String} (h : '&' ∉ text.toList) (url : String)
    (hcard : .inlineCard url ∈ Node.preorderList (document (ofMarkdown e text)).content) :
    '\n' ∉ url.toList := by
  obtain ⟨l, hl, hpage⟩ := (card_mem_ofMarkdown e text url).1 hcard
  obtain ⟨spans, hspans, hmem⟩ := List.mem_flatMap.1 hl
  obtain ⟨p, hp, room, rfl⟩ := Reader.mem_spans _ _ _ _ hspans
  have hreference : '&' ∉ p.text := fun hc => by
    rcases Draft.drawnFrom_passagesIn e.options text.toList p hp '&' hc with hsource | hnew
    · exact h hsource
    · exact absurd hnew (by decide)
  have hline := onLine_readPassage e.options (readerOf e text).definitions room hreference
  exact Link.feed_not_mem_page hpage (feed_not_mem_spansLinks _ _ hline l hmem)

theorem feeds_bare_of_sound {n : Node} (h : n.sound = true) :
    feeds (bare n) = feeds (n.url?.getD "") := by
  cases n with
  | codeBlock language c =>
    cases language with
    | none => rfl
    | some language =>
      have hword : isWord language = true := (Bool.and_eq_true_iff.1 h).1
      have hall := (Bool.and_eq_true_iff.1 hword).2
      have hfeed : '\n' ∉ language.toList := fun hmem =>
        absurd (List.all_eq_true.1 hall '\n' hmem) (by decide)
      exact feeds_eq_zero.2 hfeed
  | _ => rfl

/-- Only the addresses of cards add lines to a tree text, and without references in the source
none of them does. -/
theorem oneLineEach_document (e : Extensions) (text : String) (showMarks : Bool) :
    feeds (treeText showMarks (document (ofMarkdown e text))) =
        1 + (Node.preorderList (document (ofMarkdown e text)).content).length
          + feeds (String.join ((Node.preorderList (document (ofMarkdown e text)).content).map
              fun n => n.url?.getD "")) ∧
      (OneLineEach showMarks (document (ofMarkdown e text)) ↔
        ∀ url, .inlineCard url ∈ Node.preorderList (document (ofMarkdown e text)).content →
          '\n' ∉ url.toList) ∧
      ('&' ∉ text.toList → OneLineEach showMarks (document (ofMarkdown e text))) := by
  have hbare : ∀ n ∈ Node.preorderList (document (ofMarkdown e text)).content,
      feeds (bare n) = feeds (n.url?.getD "") := fun n hn =>
    feeds_bare_of_sound (sound_document _ n hn).1
  have hiff : OneLineEach showMarks (document (ofMarkdown e text)) ↔
      ∀ url, .inlineCard url ∈ Node.preorderList (document (ofMarkdown e text)).content →
        '\n' ∉ url.toList := by
    rw [oneLineEach_iff]
    constructor
    · intro h url hurl
      exact feeds_eq_zero.1 (h _ hurl)
    · intro h n hn
      rw [hbare n hn]
      cases n with
      | inlineCard url => exact feeds_eq_zero.2 (h url hn)
      | _ => rfl
  refine ⟨?_, hiff, fun h => hiff.2 (feed_not_mem_card e h)⟩
  rw [feeds_treeText, feeds_join_map hbare]

theorem oneLineEach_quoted_address :
    OneLineEach true (document (ofMarkdown {} "# a\n\n> <http://b>")) :=
  (oneLineEach_document {} "# a\n\n> <http://b>" true).2.2 (by decide)

theorem not_oneLineEach_reference :
    ¬ OneLineEach true (document (ofMarkdown {} "<http://a&#10;b>")) := by
  decide +kernel

end MarkdownToAdf.Source
