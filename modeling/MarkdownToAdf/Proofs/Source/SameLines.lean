import MarkdownToAdf.Proofs.Markdown.Room
import MarkdownToAdf.Proofs.Source.Cards

set_option autoImplicit false

/-!
# Texts with the same lines

Texts that are cut into the same lines have the same outline, and the same spans are read in its
passages. What may differ is the place in which the bracket of a link is looked for, and the room
for expanding references, which a longer text has more of.
-/
namespace MarkdownToAdf.Source
open Markdown

/-- If a link shows its address, is its bracket found with both tables or with none? -/
def Link.FoundAlike (table other : LineTable) (l : Link) : Prop :=
  l.showsAddress = true → l.isFound other = l.isFound table

section
variable (table other : LineTable)

theorem inlinesOf_cons_eq_iff (s : Span) (r : List Span) :
    inlinesOf other (s :: r) = inlinesOf table (s :: r) ↔
      inlineOf other s = inlineOf table s ∧ inlinesOf other r = inlinesOf table r := by
  generalize heq : s :: r = spans
  fun_cases inlinesOf table spans with
  | case1 => cases heq
  | case2 literal r' | case3 literal r' =>
    obtain ⟨rfl, rfl⟩ := List.cons.inj heq
    simp [inlinesOf, inlineOf]
  | case4 s' r' hsoft hhard =>
    obtain ⟨rfl, rfl⟩ := List.cons.inj heq
    rw [inlinesOf, List.cons.injEq]
    · exact hsoft
    · exact hhard

theorem inlineOf_link_eq_iff (destination : String) (position : Option Position)
    (children : List Span)
    (h : inlinesOf other children = inlinesOf table children ↔
      ∀ l ∈ spansLinks table children, l.FoundAlike table other) :
    inlineOf other (.link destination position children) =
        inlineOf table (.link destination position children) ↔
      ∀ l ∈ spanLinks table (.link destination position children), l.FoundAlike table other := by
  rw [inlineOf, inlineOf, spanLinks]
  generalize hl : (⟨destination, spansText children, position⟩ : Link) = l
  have hauto (t : LineTable) : isAutolink t position destination (spansText children) =
      (l.showsAddress && !l.isFound t) := hl ▸ rfl
  rw [hauto, hauto, List.forall_mem_cons]
  cases hshows : l.showsAddress with
  | false => simp [Link.FoundAlike, hshows, h]
  | true =>
    -- if it is taken for an address with the first table, no links below it are asked about
    cases htable : l.isFound table <;> cases hother : l.isFound other <;>
      simp [Link.FoundAlike, hshows, htable, hother, h]

mutual

theorem inlineOf_eq_iff :
    (s : Span) → (inlineOf other s = inlineOf table s ↔
      ∀ l ∈ spanLinks table s, l.FoundAlike table other)
  | .text _ | .softBreak | .hardBreak | .code _ | .html _ | .image _ _ =>
    iff_of_true rfl (List.forall_mem_nil _)
  | .emph children => by
    rw [inlineOf, inlineOf, spanLinks, ← inlinesOf_eq_iff children, Inline.emphasis.injEq,
      and_iff_right rfl]
  | .strong children => by
    rw [inlineOf, inlineOf, spanLinks, ← inlinesOf_eq_iff children, Inline.emphasis.injEq,
      and_iff_right rfl]
  | .strike children => by
    rw [inlineOf, inlineOf, spanLinks, ← inlinesOf_eq_iff children, Inline.strike.injEq]
  | .other kind children => by
    rw [inlineOf, inlineOf, spanLinks, ← inlinesOf_eq_iff children, Inline.other.injEq,
      and_iff_right rfl]
  | .link destination position children =>
    inlineOf_link_eq_iff table other destination position children (inlinesOf_eq_iff children)

theorem inlinesOf_eq_iff :
    (spans : List Span) → (inlinesOf other spans = inlinesOf table spans ↔
      ∀ l ∈ spansLinks table spans, l.FoundAlike table other)
  | [] => iff_of_true rfl (List.forall_mem_nil _)
  | s :: r => by
    rw [inlinesOf_cons_eq_iff, inlineOf_eq_iff s, inlinesOf_eq_iff r, spansLinks,
      List.forall_mem_append]

end

end

namespace Reader
section
variable (k : Reader)

theorem length_spans (room : Nat) (passages : List Passage) :
    (k.spans room passages).1.length = passages.length := by
  induction passages generalizing room with
  | nil => rfl
  | cons p r ih => exact congrArg (· + 1) (ih _)

theorem length_contents (room : Nat) (passages : List Passage) :
    (k.contents room passages).1.length = passages.length := by
  rw [contents, List.length_map, length_spans]

theorem length_passages (room : Nat) (passages : List Passage) :
    (k.passages room passages).1.length = passages.length := by
  rw [passages_eq, length_contents]

theorem length_contents_block (room : Nat) (b : Outline) :
    (k.block room b).1.contents.length = b.passages.length := by
  have hcontents : (k.block room b).1.contents = (k.contents room b.passages).1 :=
    congrArg Prod.fst (contents_block k room b)
  rw [hcontents, length_contents]

end

variable (j k : Reader)

theorem rows_inj (rows : List (List Passage)) :
    ∀ {a b : Nat}, (j.rows a rows).1.flatten = (k.rows b rows).1.flatten →
      (j.rows a rows).1 = (k.rows b rows).1 := by
  induction rows with
  | nil => exact fun _ => rfl
  | cons row rows ih =>
    intro a b h
    have hlength : (j.passages a row).1.length = (k.passages b row).1.length := by
      rw [length_passages, length_passages]
    obtain ⟨hrow, hrows⟩ := List.append_inj h hlength
    exact congrArg₂ List.cons hrow (ih hrows)

mutual

theorem block_inj : (b : Outline) → ∀ {x y : Nat},
    (j.block x b).1.contents = (k.block y b).1.contents → (j.block x b).1 = (k.block y b).1
  | .paragraph _, _, _, h => congrArg Block.paragraph (List.cons.inj h).1
  | .heading level _, _, _, h => congrArg (Block.heading level) (List.cons.inj h).1
  | .list ordered items, _, _, h => congrArg (Block.list ordered) (blocks_inj items h)
  | .item children, _, _, h => congrArg Block.item (blocks_inj children h)
  | .quote children, _, _, h => congrArg Block.quote (blocks_inj children h)
  | .code _, _, _, _ | .rule, _, _, _ | .html, _, _, _ => rfl
  | .table rows, _, _, h => congrArg Block.table (rows_inj j k rows h)

theorem blocks_inj : (outlines : List Outline) → ∀ {x y : Nat},
    contentsIn (j.blocks x outlines).1 = contentsIn (k.blocks y outlines).1 →
      (j.blocks x outlines).1 = (k.blocks y outlines).1
  | [], _, _, _ => rfl
  | b :: r, x, y, h => by
    -- both heads have a content for each passage, so the contents are cut in the same place
    have hlength : (j.block x b).1.contents.length = (k.block y b).1.contents.length := by
      rw [length_contents_block, length_contents_block]
    obtain ⟨hblock, hblocks⟩ := List.append_inj h hlength
    exact congrArg₂ List.cons (block_inj b hblock) (blocks_inj r hblocks)

end

theorem spans_cons (room : Nat) (p : Passage) (r : List Passage) :
    k.spans room (p :: r) =
      ((readPassage k.options k.definitions room p).1 ::
        (k.spans (readPassage k.options k.definitions room p).2 r).1,
        (k.spans (readPassage k.options k.definitions room p).2 r).2) := rfl

theorem spans_room_le (room : Nat) (passages : List Passage) :
    (k.spans room passages).2 ≤ room := by
  induction passages generalizing room with
  | nil => exact Nat.le_refl _
  | cons p r ih => exact Nat.le_trans (ih _) (room_readPassage_le _ _ _ p)

theorem spans_add_room (room extra : Nat) (passages : List Passage)
    (h : Fit k.definitions (k.spans room passages).2) :
    k.spans (room + extra) passages =
      ((k.spans room passages).1, (k.spans room passages).2 + extra) := by
  induction passages generalizing room with
  | nil => rfl
  | cons p r ih =>
    have hrest := ih (readPassage k.options k.definitions room p).2 h
    have hroom := k.spans_room_le (readPassage k.options k.definitions room p).2 r
    have hpassage := readPassage_add_room k.options k.definitions room extra p (h.mono hroom)
    rw [spans_cons, spans_cons, hpassage, hrest]

theorem spans_withTable (table : LineTable) (room : Nat) (passages : List Passage) :
    ({ k with table := table } : Reader).spans room passages = k.spans room passages := by
  induction passages generalizing room with
  | nil => rfl
  | cons p r ih => rw [spans_cons, spans_cons, ih]

end Reader

/-- The room for expanding references that the passages of a text leave. -/
def roomLeft (e : Extensions) (text : String) : Nat :=
  ((readerOf e text).spans (roomOf text) (passagesRead e text)).2

def SameLines (text other : String) : Prop :=
  splitLines other.toList = splitLines text.toList

namespace SameLines
variable {text other : String} (h : SameLines text other) (e : Extensions)
include h

theorem ofText_eq : Draft.ofText e.options other.toList = Draft.ofText e.options text.toList := by
  rw [Draft.ofText, Draft.ofText, h]

theorem outlineOf_eq : outlineOf e other = outlineOf e text := by
  rw [outlineOf, h.ofText_eq e, outlineOf]

theorem readerOf_eq :
    readerOf e other = { readerOf e text with table := LineTable.ofText other.toList } := by
  rw [readerOf, h.ofText_eq e, readerOf]

theorem passagesRead_eq : passagesRead e other = passagesRead e text := by
  rw [passagesRead, h.outlineOf_eq e, passagesRead]

theorem spansRead_eq (hle : roomOf text ≤ roomOf other)
    (hroom : roomOf other = roomOf text ∨ Fit (readerOf e text).definitions (roomLeft e text)) :
    spansRead e other = spansRead e text := by
  rw [spansRead, h.readerOf_eq e, h.passagesRead_eq e, Reader.spans_withTable, spansRead]
  rcases hroom with hsame | hfit
  · rw [hsame]
  · obtain ⟨extra, hextra⟩ := Nat.exists_eq_add_of_le hle
    rw [hextra, Reader.spans_add_room _ _ _ _ hfit]

/-- With the same spans the source tree is the same exactly if each link that shows its address is
found behind its bracket in both texts or in neither. -/
theorem ofMarkdown_eq_iff (hspans : spansRead e other = spansRead e text) :
    ofMarkdown e other = ofMarkdown e text ↔
      ∀ l ∈ linksRead e text, l.FoundAlike (LineTable.ofText text.toList)
        (LineTable.ofText other.toList) := by
  have hcontents : ofMarkdown e other = ofMarkdown e text ↔
      contentsIn (ofMarkdown e other) = contentsIn (ofMarkdown e text) := by
    refine ⟨congrArg contentsIn, fun heq => ?_⟩
    rw [ofMarkdown_eq, ofMarkdown_eq, h.outlineOf_eq e] at heq ⊢
    exact Reader.blocks_inj _ _ _ heq
  rw [hcontents, contentsIn_ofMarkdown, contentsIn_ofMarkdown, hspans, List.map_inj_left]
  simp only [inlinesOf_eq_iff]
  unfold linksRead
  simp only [List.forall_mem_flatMap]
  rfl

end SameLines

end MarkdownToAdf.Source
