import MarkdownToAdf.Proofs.Conversion.DocumentAtoms
import MarkdownToAdf.Proofs.Markdown.Drafts
import MarkdownToAdf.Source.OfMarkdown

set_option autoImplicit false

/-!
# Source trees and their passages

The inline content of a source tree is what its passages give when they are read one after the
other, and the tree is tidy because its outline is. So what a document says is told by the
spans of the passages.
-/
namespace MarkdownToAdf.Source
open Adf Markdown

mutual

def Block.contents : Block → List (List Inline)
  | .paragraph content => [content]
  | .heading _ content => [content]
  | .list _ children => contentsIn children
  | .item children => contentsIn children
  | .code _ | .rule => []
  | .quote children => contentsIn children
  | .table rows => rows.flatten
  | .other _ children => contentsIn children

def contentsIn : List Block → List (List Inline)
  | [] => []
  | b :: r => b.contents ++ contentsIn r

end

section
variable {β : Type} (f : Atom → Option β)

theorem filterMap_code (hplain : ∀ c, f (.char c []) = none) (b : CodeBlock) :
    (Block.code b).atoms.filterMap f = [] := by
  rw [Block.atoms, charAtoms, List.filterMap_map, List.filterMap_eq_nil_iff]
  exact fun c _ => hplain c

mutual

/-- Apart from inline content a block says nothing but plain characters and rules. -/
theorem filterMap_block (hplain : ∀ c, f (.char c []) = none) (hrule : f .rule = none) :
    (b : Block) → b.atoms.filterMap f =
      b.contents.flatMap fun content => (inlineAtoms [] content).filterMap f
  | .paragraph content => by
    rw [Block.atoms, Block.contents, List.flatMap_singleton]
  | .heading _ content => by
    rw [Block.atoms, Block.contents, List.flatMap_singleton]
  | .list _ children => by
    rw [Block.atoms, Block.contents, filterMap_blockAtoms hplain hrule children]
  | .item children => by
    rw [Block.atoms, Block.contents, filterMap_blockAtoms hplain hrule children]
  | .code block => by
    rw [filterMap_code f hplain, Block.contents, List.flatMap_nil]
  | .quote children => by
    rw [Block.atoms, Block.contents, filterMap_blockAtoms hplain hrule children]
  | .rule => by
    rw [Block.atoms, Block.contents, List.filterMap_cons, hrule]
    rfl
  | .table rows => by
    rw [Block.atoms, Block.contents, List.flatten_eq_flatMap, List.flatMap_assoc]
    simp only [List.filterMap_flatMap, id]
  | .other _ children => by
    rw [Block.atoms, Block.contents, filterMap_blockAtoms hplain hrule children]

theorem filterMap_blockAtoms (hplain : ∀ c, f (.char c []) = none) (hrule : f .rule = none) :
    (blocks : List Block) → (blockAtoms blocks).filterMap f =
      (contentsIn blocks).flatMap fun content => (inlineAtoms [] content).filterMap f
  | [] => by
    rw [blockAtoms, contentsIn]
    rfl
  | b :: r => by
    rw [blockAtoms, contentsIn, List.filterMap_append, List.flatMap_append,
      filterMap_block hplain hrule b, filterMap_blockAtoms hplain hrule r]

end

end

def Reader.spans (k : Reader) : Nat → List Passage → List (List Span) × Nat
  | room, [] => ([], room)
  | room, p :: r =>
    let (content, room) := readPassage k.options k.definitions room p
    let (contents, room) := k.spans room r
    (content :: contents, room)

def Reader.contents (k : Reader) (room : Nat) (passages : List Passage) :
    List (List Inline) × Nat :=
  ((k.spans room passages).1.map (inlinesOf k.table), (k.spans room passages).2)

namespace Reader
variable (k : Reader)

theorem contents_append (room : Nat) (a b : List Passage) :
    k.contents room (a ++ b) =
      ((k.contents room a).1 ++ (k.contents (k.contents room a).2 b).1,
        (k.contents (k.contents room a).2 b).2) := by
  induction a generalizing room with
  | nil => rfl
  | cons p r ih =>
    have hrest := ih (readPassage k.options k.definitions room p).2
    simp only [contents, Prod.mk.injEq] at hrest
    simp only [contents, List.cons_append, spans, List.map_cons, hrest]

theorem contents_singleton (room : Nat) (p : Passage) :
    k.contents room [p] = ([(k.passage room p).1], (k.passage room p).2) := rfl

theorem passages_eq (room : Nat) (passages : List Passage) :
    k.passages room passages = k.contents room passages := by
  induction passages generalizing room with
  | nil => rfl
  | cons p r ih =>
    rw [← List.singleton_append, contents_append, contents_singleton, ← ih]
    rfl

theorem rows_flatten (room : Nat) (rows : List (List Passage)) :
    ((k.rows room rows).1.flatten, (k.rows room rows).2) = k.contents room rows.flatten := by
  induction rows generalizing room with
  | nil => rfl
  | cons row rows ih =>
    rw [List.flatten_cons, contents_append, ← passages_eq, ← ih]
    rfl

mutual

theorem contents_block (room : Nat) :
    (b : Outline) → ((k.block room b).1.contents, (k.block room b).2) = k.contents room b.passages
  | .paragraph _ => rfl
  | .heading _ _ => rfl
  | .list _ items => contents_blocks room items
  | .item children => contents_blocks room children
  | .quote children => contents_blocks room children
  | .code _ => rfl
  | .rule => rfl
  | .html => rfl
  | .table rows => rows_flatten k room rows

theorem contents_blocks (room : Nat) :
    (outlines : List Outline) →
      (contentsIn (k.blocks room outlines).1, (k.blocks room outlines).2) =
        k.contents room (passagesIn outlines)
  | [] => rfl
  | b :: r => by
    rw [passagesIn, contents_append, ← contents_block room b, ← contents_blocks _ r]
    rfl

end

mutual

theorem isTidy_block (room : Nat) : (b : Outline) → (k.block room b).1.isTidy = b.isTidy
  | .paragraph _ => rfl
  | .heading _ _ => rfl
  | .list _ items => tidyItems_blocks room items
  | .item _ => rfl
  | .quote children => tidyBlocks_blocks room children
  | .code _ => rfl
  | .rule => rfl
  | .html => rfl
  | .table _ => rfl

theorem tidyBlocks_blocks (room : Nat) :
    (outlines : List Outline) → tidyBlocks (k.blocks room outlines).1 = tidyIn outlines
  | [] => rfl
  | b :: r => by
    rw [tidyIn, ← isTidy_block room b, ← tidyBlocks_blocks _ r]
    rfl

theorem tidyItems_blocks (room : Nat) :
    (outlines : List Outline) → tidyItems (k.blocks room outlines).1 = tidyItemsIn outlines
  | [] => rfl
  | .item children :: r => by
    rw [tidyItemsIn, ← tidyBlocks_blocks room children, ← tidyItems_blocks _ r]
    rfl
  | .paragraph _ :: r | .heading _ _ :: r | .list _ _ :: r | .quote _ :: r | .code _ :: r
  | .rule :: r | .html :: r | .table _ :: r => rfl

end

/-- Every passage is read by itself, apart from the room that the earlier ones leave. -/
theorem mem_spans (room : Nat) (passages : List Passage) (spans : List Span)
    (h : spans ∈ (k.spans room passages).1) :
    ∃ p ∈ passages, ∃ room, spans = (readPassage k.options k.definitions room p).1 := by
  induction passages generalizing room with
  | nil => cases h
  | cons p r ih =>
    rcases List.mem_cons.1 h with rfl | hr
    · exact ⟨p, List.mem_cons_self .., room, rfl⟩
    · obtain ⟨q, hq, room', heq⟩ := ih _ hr
      exact ⟨q, List.mem_cons_of_mem _ hq, room', heq⟩

end Reader

def readerOf (e : Extensions) (text : String) : Reader :=
  ⟨e.options, (Draft.ofText e.options text.toList).definitions, LineTable.ofText text.toList⟩

def outlineOf (e : Extensions) (text : String) : List Outline :=
  (Draft.ofText e.options text.toList).done.reverse

/-- How many bytes may be written in a text by expanding references. -/
def roomOf (text : String) : Nat :=
  max 100000 (LineTable.ofText text.toList).bytes.length

theorem ofMarkdown_eq (e : Extensions) (text : String) :
    ofMarkdown e text = ((readerOf e text).blocks (roomOf text) (outlineOf e text)).1 := rfl

def passagesRead (e : Extensions) (text : String) : List Passage :=
  passagesIn (outlineOf e text)

def spansRead (e : Extensions) (text : String) : List (List Span) :=
  ((readerOf e text).spans (roomOf text) (passagesRead e text)).1

theorem contentsIn_ofMarkdown (e : Extensions) (text : String) :
    contentsIn (ofMarkdown e text) = (spansRead e text).map (inlinesOf (readerOf e text).table) := by
  have hblocks := Reader.contents_blocks (readerOf e text) (roomOf text) (outlineOf e text)
  rw [ofMarkdown_eq]
  exact (Prod.mk.inj hblocks).1

theorem tidyBlocks_ofMarkdown (e : Extensions) (text : String) :
    tidyBlocks (ofMarkdown e text) = true := by
  rw [ofMarkdown_eq, Reader.tidyBlocks_blocks]
  exact Draft.tidyIn_ofText e.options text.toList

/-- Reading Markdown makes no blocks from which conversion would leave anything out. -/
theorem atoms_ofMarkdown (e : Extensions) (text : String) :
    (document (ofMarkdown e text)).atoms = blockAtoms (ofMarkdown e text) :=
  (conveys_document _).2 (tidyBlocks_ofMarkdown e text)

end MarkdownToAdf.Source
