import MarkdownToAdf.Proofs.Conversion.InlineAtoms

set_option autoImplicit false

/-!
# The atoms of a source tree

Nothing that a document says was made up, said twice or moved: its atoms are those of the
source, some left out. Something is left out only where a block takes the place of the one
around it, and where a list has children that are no items.
-/
namespace MarkdownToAdf.Source
open Adf

/-- The text without the line terminator at its end, of which only one is taken off. -/
def withoutTerminator (text : List Char) : List Char :=
  if ['\r', '\n'].isSuffixOf text then text.dropLast.dropLast
  else if ['\n'].isSuffixOf text then text.dropLast
  else text

mutual

/-- All that a block says, its children included whatever they are. -/
def Block.atoms : Block → List Atom
  | .paragraph content => inlineAtoms [] content
  | .heading _ content => inlineAtoms [] content
  | .list _ children => blockAtoms children
  | .item children => blockAtoms children
  | .code block => charAtoms (withoutTerminator block.literal.toList) []
  | .quote children => blockAtoms children
  | .rule => [.rule]
  | .table rows => rows.flatMap fun row => row.flatMap (inlineAtoms [])
  | .other _ children => blockAtoms children

def blockAtoms : List Block → List Atom
  | [] => []
  | b :: r => b.atoms ++ blockAtoms r

end

mutual

/-- Is every item in a list, is nothing else in one, and does no block without a counterpart
hold other blocks? -/
def Block.isTidy : Block → Bool
  | .paragraph _ | .heading _ _ | .code _ | .rule | .table _ => true
  | .list _ children => tidyItems children
  | .item _ => false
  | .quote children => tidyBlocks children
  | .other _ children => children.isEmpty

def tidyBlocks : List Block → Bool
  | [] => true
  | b :: r => b.isTidy && tidyBlocks r

def tidyItems : List Block → Bool
  | [] => true
  | .item children :: r => tidyBlocks children && tidyItems r
  | _ :: _ => false

end

/-- Nodes say a part of some atoms, and all of them if the source was tidy. -/
def Conveys (tidy : Bool) (nodes : List Node) (atoms : List Atom) : Prop :=
  (atomsOf nodes).Sublist atoms ∧ (tidy = true → atomsOf nodes = atoms)

theorem Conveys.of_eq {tidy : Bool} {nodes : List Node} {atoms : List Atom}
    (h : atomsOf nodes = atoms) : Conveys tidy nodes atoms :=
  ⟨h ▸ List.Sublist.refl _, fun _ => h⟩

theorem Conveys.append {t u : Bool} {a b : List Node} {x y : List Atom}
    (ha : Conveys t a x) (hb : Conveys u b y) : Conveys (t && u) (a ++ b) (x ++ y) := by
  unfold Conveys
  rw [atomsOf_append]
  refine ⟨ha.1.append hb.1, fun h => ?_⟩
  obtain ⟨ht, hu⟩ := Bool.and_eq_true_iff.1 h
  rw [ha.2 ht, hb.2 hu]

theorem Conveys.parent {tidy : Bool} {atoms : List Atom} (n : Node)
    (h : Conveys tidy n.content atoms) (hown : n.own = []) : Conveys tidy [n] atoms := by
  unfold Conveys
  rwa [atomsOf_singleton, hown, List.nil_append]

theorem sublist_head? (nodes : List Node) :
    (atomsOf nodes.head?.toList).Sublist (atomsOf nodes) := by
  cases nodes with
  | nil => exact List.Sublist.refl _
  | cons n r =>
    rw [atomsOf_cons, List.head?_cons, Option.toList_some, atomsOf_singleton]
    exact List.sublist_append_left _ _

theorem Conveys.head? {tidy : Bool} {nodes : List Node} {atoms : List Atom}
    (h : Conveys tidy nodes atoms) : Conveys false nodes.head?.toList atoms :=
  ⟨(sublist_head? nodes).trans h.1, fun hfalse => by cases hfalse⟩

theorem atomsOf_paragraph? (content : List Inline) :
    atomsOf (paragraphNode? (leaves [] content)).toList = inlineAtoms [] content := by
  rw [← atomsOf_leaves]
  cases leaves [] content with
  | nil => rfl
  | cons n r => exact atomsOf_singleton _

theorem atomsOf_cellNode (header : Bool) (cell : List Inline) :
    atomsOf [cellNode header cell] = inlineAtoms [] cell := by
  have hparagraph : atomsOf [.paragraph (leaves [] cell)] = inlineAtoms [] cell := by
    rw [atomsOf_singleton, ← atomsOf_leaves]
    rfl
  rw [atomsOf_singleton, ← hparagraph]
  cases header <;> rfl

theorem atomsOf_rowNode (header : Bool) (row : List (List Inline)) :
    atomsOf [rowNode header row] = row.flatMap (inlineAtoms []) := by
  have hcells : atomsOf (row.map (cellNode header)) = row.flatMap (inlineAtoms []) := by
    simp only [atomsOf_map, atomsOf_cellNode]
  rw [atomsOf_singleton, ← hcells]
  rfl

theorem atomsOf_tableNode (rows : List (List (List Inline))) :
    atomsOf [tableNode rows] = rows.flatMap fun row => row.flatMap (inlineAtoms []) := by
  cases rows with
  | nil => rfl
  | cons header rows =>
    have hrows : atomsOf (rows.map (rowNode false)) =
        rows.flatMap fun row => row.flatMap (inlineAtoms []) := by
      simp only [atomsOf_map, atomsOf_rowNode]
    have hall : atomsOf (rowNode true header :: rows.map (rowNode false)) =
        (header :: rows).flatMap fun row => row.flatMap (inlineAtoms []) := by
      rw [atomsOf_cons, ← atomsOf_singleton, atomsOf_rowNode, hrows, List.flatMap_cons]
    rw [atomsOf_singleton, ← hall]
    rfl

theorem isSuffixOf_iff_reverse (terminator text : List Char) :
    terminator.isSuffixOf text = true ↔ ∃ r, text.reverse = terminator.reverse ++ r := by
  rw [List.isSuffixOf_iff_suffix, ← List.reverse_prefix]
  exact ⟨fun ⟨r, h⟩ => ⟨r, h.symm⟩, fun ⟨r, h⟩ => ⟨r, h.symm⟩⟩

theorem body_toList (b : CodeBlock) : b.body.toList = withoutTerminator b.literal.toList := by
  have hreverse := List.reverse_reverse b.literal.toList
  have hboth := isSuffixOf_iff_reverse ['\r', '\n'] b.literal.toList
  have hone := isSuffixOf_iff_reverse ['\n'] b.literal.toList
  unfold CodeBlock.body withoutTerminator
  split
  · rename_i r h
    rw [if_pos (hboth.2 ⟨r, h⟩), ← hreverse, h]
    simp
  · rename_i r hr h
    have hno : ¬ ['\r', '\n'].isSuffixOf b.literal.toList = true := fun hs => by
      obtain ⟨t, ht⟩ := hboth.1 hs
      exact hr t (List.cons.inj (h.symm.trans ht)).2
    rw [if_neg hno, if_pos (hone.2 ⟨r, h⟩), ← hreverse, h]
    simp
  · rename_i hr ht
    have hno : ¬ ['\r', '\n'].isSuffixOf b.literal.toList = true := fun hs =>
      (hboth.1 hs).elim hr
    have hno' : ¬ ['\n'].isSuffixOf b.literal.toList = true := fun hs => (hone.1 hs).elim ht
    rw [if_neg hno, if_neg hno']

theorem atomsOf_code (b : CodeBlock) :
    atomsOf [b.node] = charAtoms (withoutTerminator b.literal.toList) [] := by
  rw [atomsOf_singleton, ← body_toList, ← atomsOf_textLeaf]
  rfl

mutual

/-- Each block conveys its atoms. What is left out is left out where the first child takes the
place of a block, or in a list. -/
theorem conveys_node? : (b : Block) → Conveys b.isTidy b.node?.toList b.atoms
  | .paragraph content => by
    rw [Block.node?, Block.atoms]
    exact .of_eq (atomsOf_paragraph? content)
  | .heading level content => by
    rw [Block.node?, Block.atoms]
    exact .parent (.heading level _) (.of_eq (atomsOf_leaves [] content)) rfl
  | .list ordered children => by
    rw [Block.node?, Block.isTidy, Block.atoms]
    cases ordered with
    | true => exact .parent (.orderedList _) (conveys_itemNodes children) rfl
    | false => exact .parent (.bulletList _) (conveys_itemNodes children) rfl
  | .item children => by
    rw [Block.node?, Block.isTidy, Block.atoms]
    exact (conveys_nodes children).head?
  | .code block => by
    rw [Block.node?, Block.atoms]
    exact .of_eq (atomsOf_code block)
  | .quote children => by
    rw [Block.node?, Block.isTidy, Block.atoms]
    exact .parent (.blockquote _) (conveys_nodes children) rfl
  | .rule => by
    rw [Block.node?, Block.atoms]
    exact .of_eq rfl
  | .table rows => by
    rw [Block.node?, Block.atoms]
    exact .of_eq (atomsOf_tableNode rows)
  | .other _ [] => by
    rw [Block.node?, Block.atoms, nodes, blockAtoms]
    exact .of_eq rfl
  | .other _ (b :: r) => by
    rw [Block.node?, Block.isTidy, Block.atoms]
    exact (conveys_nodes (b :: r)).head?

theorem conveys_nodes :
    (blocks : List Block) → Conveys (tidyBlocks blocks) (nodes blocks) (blockAtoms blocks)
  | [] => by
    rw [nodes, blockAtoms]
    exact .of_eq rfl
  | b :: r => by
    rw [nodes, tidyBlocks, blockAtoms]
    exact (conveys_node? b).append (conveys_nodes r)

theorem conveys_itemNodes :
    (blocks : List Block) → Conveys (tidyItems blocks) (itemNodes blocks) (blockAtoms blocks)
  | [] => by
    rw [itemNodes, blockAtoms]
    exact .of_eq rfl
  | .item children :: r => by
    rw [itemNodes, tidyItems, blockAtoms, Block.atoms]
    have hitem : Conveys (tidyBlocks children) [.listItem (nodes children)] (blockAtoms children) :=
      .parent _ (conveys_nodes children) rfl
    exact hitem.append (conveys_itemNodes r)
  | .paragraph _ :: r | .heading _ _ :: r | .list _ _ :: r | .code _ :: r | .quote _ :: r
  | .rule :: r | .table _ :: r | .other _ _ :: r => by
    rw [itemNodes, blockAtoms]
    · exact ⟨(conveys_itemNodes r).1.trans (List.sublist_append_right _ _),
        fun htidy => by simp [tidyItems] at htidy⟩
    · rintro children ⟨⟩

end

theorem conveys_document (blocks : List Block) :
    Conveys (tidyBlocks blocks) (document blocks).content (blockAtoms blocks) :=
  conveys_nodes blocks

/-- The atoms of a document are atoms of its source in the same order, and all of them if no
block had to give way to its first child and all children of lists were items. -/
theorem atoms_document (blocks : List Block) :
    (document blocks).atoms.Sublist (blockAtoms blocks) ∧
      (tidyBlocks blocks = true → (document blocks).atoms = blockAtoms blocks) :=
  conveys_document blocks

theorem atoms_document_quoted_list :
    let blocks : List Block :=
      [.quote [.list true [.item [.paragraph [.emphasis 1 [.text "a" (some .hard)]], .rule]],
        .code ⟨true, "c", "b\r\n"⟩]]
    tidyBlocks blocks = true ∧ (document blocks).atoms = blockAtoms blocks :=
  ⟨by decide, (atoms_document _).2 (by decide)⟩

end MarkdownToAdf.Source
