import MarkdownToAdf.Proofs.Markdown.Brackets
import MarkdownToAdf.Proofs.Source.Passages

set_option autoImplicit false

/-!
# Which links become cards

A link that shows the page it leads to is taken for a bare address unless an opening bracket is
found where the source says that it begins. The cards of a document are exactly the links for
which none is found, whether they were written with one or not.
-/
namespace MarkdownToAdf.Source
open Adf Markdown

def cardUrl? : Atom → Option String
  | .card url => some url
  | _ => none

def cardsIn (atoms : List Atom) : List String :=
  atoms.filterMap cardUrl?

theorem cardsIn_append (a b : List Atom) : cardsIn (a ++ b) = cardsIn a ++ cardsIn b :=
  List.filterMap_append

theorem cardsIn_flatMap {α : Type} (f : α → List Atom) (l : List α) :
    cardsIn (l.flatMap f) = l.flatMap fun x => cardsIn (f x) := by
  induction l with
  | nil => rfl
  | cons x l ih => rw [List.flatMap_cons, cardsIn_append, ih, List.flatMap_cons]

theorem cardsIn_charAtoms (text : List Char) (marks : List Mark) :
    cardsIn (charAtoms text marks) = [] := by
  induction text with
  | nil => rfl
  | cons c r ih => exact ih

theorem card_mem_own (n : Node) (url : String) : url ∈ cardsIn n.own ↔ n = .inlineCard url := by
  cases n with
  | text literal marks => simp [Node.own, cardsIn_charAtoms]
  | inlineCard u => simp [Node.own, cardsIn, cardUrl?, eq_comm]
  | _ => simp [Node.own, cardsIn, cardUrl?]

theorem card_mem_atomsOf (nodes : List Node) (url : String) :
    url ∈ cardsIn (atomsOf nodes) ↔ .inlineCard url ∈ Node.preorderList nodes := by
  unfold atomsOf
  rw [cardsIn_flatMap]
  simp only [List.mem_flatMap, card_mem_own, exists_eq_right]

def Inline.pageUrl? : Inline → Option String
  | .autolink url _ .url => some url
  | _ => none

theorem cardsIn_own (marks : List Mark) (i : Inline) :
    cardsIn (i.own marks) = i.pageUrl?.toList := by
  cases i with
  | text literal lineBreak =>
    rw [Inline.own, cardsIn_append, cardsIn_charAtoms]
    cases lineBreak with
    | none => rfl
    | some b => cases b <;> rfl
  | code literal => exact cardsIn_charAtoms _ _
  | autolink url label kind =>
    cases kind with
    | url => rfl
    | email => exact cardsIn_charAtoms _ _
  | image destination alt => exact cardsIn_charAtoms _ _
  | _ => rfl

def pagesOf (around : List Wrapper) (i : Inline) : List String :=
  (i.occurrences around).flatMap fun o => o.2.pageUrl?.toList

def pagesIn (around : List Wrapper) (inlines : List Inline) : List String :=
  (occurrencesIn around inlines).flatMap fun o => o.2.pageUrl?.toList

theorem cardsIn_inlineAtoms (marks : List Mark) (inlines : List Inline) :
    cardsIn (inlineAtoms marks inlines) = pagesIn [] inlines := by
  unfold inlineAtoms
  rw [cardsIn_flatMap]
  simp only [occurrenceAtoms, cardsIn_own]
  rfl

theorem cardsIn_blockAtoms (blocks : List Block) :
    cardsIn (blockAtoms blocks) = (contentsIn blocks).flatMap (pagesIn []) := by
  rw [cardsIn, filterMap_blockAtoms cardUrl? (fun _ => rfl) rfl]
  congr 1
  funext content
  exact cardsIn_inlineAtoms [] content

/-- A link as it was written: where it leads, what it shows and where it begins. -/
structure Link where
  destination : String
  label : String
  position : Option Position
  deriving Repr

namespace Link

def isFound (table : LineTable) (l : Link) : Bool :=
  (l.position.bind fun p => table.byteAt p.line p.column) == some openingBracket

def showsAddress (l : Link) : Bool :=
  Source.showsAddress l.label l.destination

def showsPage (l : Link) : Bool :=
  l.showsAddress && addressKind l.destination == .url

def page? (table : LineTable) (l : Link) : Option String :=
  if l.showsPage && !l.isFound table then some l.destination else none

theorem page?_eq_none (table : LineTable) (l : Link) :
    l.page? table = none ↔ (l.showsPage = true → l.isFound table = true) := by
  unfold page?
  cases l.showsPage <;> cases l.isFound table <;> simp

end Link

mutual

/-- The links of a span in order. The label of a link that is taken for an address is only
text, so the links in it are none. -/
def spanLinks (table : LineTable) : Span → List Link
  | .text _ | .softBreak | .hardBreak | .code _ | .html _ => []
  | .emph children => spansLinks table children
  | .strong children => spansLinks table children
  | .strike children => spansLinks table children
  | .link destination position children =>
    let l : Link := ⟨destination, spansText children, position⟩
    l :: if l.showsAddress && !l.isFound table then [] else spansLinks table children
  | .image _ _ => []
  | .other _ children => spansLinks table children

def spansLinks (table : LineTable) : List Span → List Link
  | [] => []
  | s :: r => spanLinks table s ++ spansLinks table r

end

section
variable (table : LineTable)

theorem pagesIn_cons (around : List Wrapper) (i : Inline) (r : List Inline) :
    pagesIn around (i :: r) = pagesOf around i ++ pagesIn around r := by
  unfold pagesIn pagesOf
  rw [occurrencesIn, List.flatMap_append]

theorem pagesIn_inlinesOf_cons (around : List Wrapper) (s : Span) (r : List Span) :
    pagesIn around (inlinesOf table (s :: r)) =
      pagesOf around (inlineOf table s) ++ pagesIn around (inlinesOf table r) := by
  rw [← pagesIn_cons]
  generalize heq : s :: r = spans
  fun_cases inlinesOf table spans with
  | case1 => cases heq
  | case2 literal r' | case3 literal r' | case4 s' r' =>
    obtain ⟨rfl, rfl⟩ := List.cons.inj heq
    rfl

theorem pagesOf_link (around : List Wrapper) (l : Link) (children : List Inline)
    (links : List Link)
    (h : pagesIn (around ++ [.link l.destination]) children =
      links.filterMap (Link.page? table)) :
    pagesOf around
        (if isAutolink table l.position l.destination l.label then
          .autolink l.destination l.label (addressKind l.destination)
        else .link l.destination children) =
      (l :: if l.showsAddress && !l.isFound table then [] else links).filterMap
        (Link.page? table) := by
  have hauto : isAutolink table l.position l.destination l.label =
      (l.showsAddress && !l.isFound table) := rfl
  have hpage : l.page? table =
      if (l.showsAddress && !l.isFound table) && addressKind l.destination == .url then
        some l.destination else none := by
    unfold Link.page? Link.showsPage
    rw [Bool.and_right_comm]
  rw [hauto, List.filterMap_cons, hpage]
  by_cases htaken : (l.showsAddress && !l.isFound table) = true
  · rw [if_pos htaken, if_pos htaken, htaken]
    cases addressKind l.destination <;> rfl
  · rw [if_neg htaken, if_neg htaken, Bool.eq_false_iff.2 htaken]
    exact h

mutual

theorem pagesOf_inlineOf (around : List Wrapper) :
    (s : Span) → pagesOf around (inlineOf table s) = (spanLinks table s).filterMap (Link.page? table)
  | .text _ | .softBreak | .hardBreak | .code _ | .html _ | .image _ _ => rfl
  | .emph children => pagesIn_inlinesOf (around ++ [Wrapper.emphasis 1]) children
  | .strong children => pagesIn_inlinesOf (around ++ [Wrapper.emphasis 2]) children
  | .strike children => pagesIn_inlinesOf (around ++ [Wrapper.strike]) children
  | .other kind children => pagesIn_inlinesOf (around ++ [Wrapper.other kind]) children
  | .link destination position children => by
    have hchildren := pagesIn_inlinesOf (around ++ [Wrapper.link destination]) children
    rw [inlineOf, spanLinks]
    exact pagesOf_link table around ⟨destination, spansText children, position⟩ _ _ hchildren

theorem pagesIn_inlinesOf (around : List Wrapper) :
    (spans : List Span) → pagesIn around (inlinesOf table spans) =
      (spansLinks table spans).filterMap (Link.page? table)
  | [] => rfl
  | s :: r => by
    rw [pagesIn_inlinesOf_cons, pagesOf_inlineOf around s, pagesIn_inlinesOf around r, spansLinks,
      List.filterMap_append]

end

end

mutual

theorem opensAt_spanLinks (table : LineTable) (p : Passage) :
    (s : Span) → s.All p.Opens → ∀ l ∈ spanLinks table s, p.OpensAt l.position
  | .text _, _ | .softBreak, _ | .hardBreak, _ | .code _, _ | .html _, _ | .image _ _, _ =>
    List.forall_mem_nil _
  | .emph children, h | .strong children, h | .strike children, h | .other _ children, h =>
    opensAt_spansLinks table p children h.2
  | .link destination position children, h => by
    have hchildren := opensAt_spansLinks table p children h.2
    rw [spanLinks]
    refine List.forall_mem_cons.2 ⟨h.1, ?_⟩
    split
    · exact List.forall_mem_nil _
    · exact hchildren

theorem opensAt_spansLinks (table : LineTable) (p : Passage) :
    (spans : List Span) → AllIn p.Opens spans → ∀ l ∈ spansLinks table spans, p.OpensAt l.position
  | [], _ => List.forall_mem_nil _
  | s :: r, h => by
    rw [spansLinks]
    exact List.forall_mem_append.2
      ⟨opensAt_spanLinks table p s h.1, opensAt_spansLinks table p r h.2⟩

end

/-- The links that are read in a text, in order. -/
def linksRead (e : Extensions) (text : String) : List Link :=
  (spansRead e text).flatMap (spansLinks (LineTable.ofText text.toList))

/-- The cards of a document are the links that show their page and are not found. -/
theorem cards_ofMarkdown (e : Extensions) (text : String) :
    cardsIn (document (ofMarkdown e text)).atoms =
      (linksRead e text).filterMap (Link.page? (LineTable.ofText text.toList)) := by
  unfold linksRead
  rw [atoms_ofMarkdown, cardsIn_blockAtoms, contentsIn_ofMarkdown, List.flatMap_map,
    List.filterMap_flatMap]
  congr 1
  funext spans
  exact pagesIn_inlinesOf _ [] spans

theorem card_mem_ofMarkdown (e : Extensions) (text url : String) :
    .inlineCard url ∈ Node.preorderList (document (ofMarkdown e text)).content ↔
      ∃ l ∈ linksRead e text, l.page? (LineTable.ofText text.toList) = some url := by
  rw [← card_mem_atomsOf, ← List.mem_filterMap, ← cards_ofMarkdown]
  rfl

theorem opensAt_linksRead {e : Extensions} {text : String} (htext : '<' ∉ text.toList)
    (hbare : e.autolink = false) :
    ∀ l ∈ linksRead e text, ∃ p ∈ passagesRead e text, p.OpensAt l.position := by
  intro l hl
  obtain ⟨spans, hspans, hmem⟩ := List.mem_flatMap.1 hl
  obtain ⟨p, hp, room, rfl⟩ := Reader.mem_spans _ _ _ _ hspans
  have hangle : '<' ∉ p.text := fun hc => by
    rcases Draft.drawnFrom_passagesIn e.options text.toList p hp '<' hc with hsource | hnew
    · exact htext hsource
    · exact absurd hnew (by decide)
  have hopens := opens_readPassage (e := e.options) hbare (readerOf e text).definitions room p hangle
  exact ⟨p, hp, opensAt_spansLinks _ p _ hopens l hmem⟩

/-- In a text without `<`, with bare addresses left alone, every link is written with a bracket.
The document is free of cards exactly when each link that shows its page is found behind one. -/
theorem card_free_iff (e : Extensions) (text : String) (htext : '<' ∉ text.toList)
    (hbare : e.autolink = false) :
    (∀ l ∈ linksRead e text, ∃ p ∈ passagesRead e text, p.OpensAt l.position) ∧
      ((∀ url, .inlineCard url ∉ Node.preorderList (document (ofMarkdown e text)).content) ↔
        ∀ l ∈ linksRead e text, l.showsPage = true →
          l.isFound (LineTable.ofText text.toList) = true) := by
  refine ⟨opensAt_linksRead htext hbare, ?_⟩
  simp only [card_mem_ofMarkdown, not_exists, not_and]
  constructor
  · intro h l hl
    have hpage : l.page? _ = none := Option.eq_none_iff_forall_ne_some.2 fun url => h url l hl
    exact (l.page?_eq_none _).1 hpage
  · intro h url l hl hurl
    rw [(l.page?_eq_none _).2 (h l hl)] at hurl
    cases hurl

theorem card_free_quoted_link :
    '<' ∉ "> a\n> [http://x](http://x)".toList ∧
      ∀ url, .inlineCard url ∉ Node.preorderList
        (document (ofMarkdown ⟨true, true, false⟩ "> a\n> [http://x](http://x)")).content :=
  ⟨by decide +kernel, (card_free_iff _ _ (by decide +kernel) rfl).2.2 (by decide +kernel)⟩

/-- Behind a break made by a backslash the line is not counted on, so the bracket of a link in a
quote is looked up one line too early and the link becomes a card. -/
theorem card_of_written_link :
    '<' ∉ "> a\\\n> [http://x](http://x)".toList ∧
      .inlineCard "http://x" ∈ Node.preorderList
        (document (ofMarkdown ⟨true, true, false⟩ "> a\\\n> [http://x](http://x)")).content := by
  decide +kernel

end MarkdownToAdf.Source
