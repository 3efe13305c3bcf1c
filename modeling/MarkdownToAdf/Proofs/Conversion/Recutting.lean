import MarkdownToAdf.Proofs.Adf.Letters
import MarkdownToAdf.Proofs.Conversion.InlineAtoms
import Mathlib.Logic.Relation

set_option autoImplicit false

/-!
# Sources that are cut differently

Inline source can say one thing in many ways: a text in pieces, with empty pieces between them,
in one wrapper or in several with the same marks. None of this is seen in the document, because
the leaves that are made of inline source are settled by its atoms.
-/
namespace MarkdownToAdf.Source
open Adf

def Wrapper.of : Wrapper → List Inline → Inline
  | .emphasis level, children => .emphasis level children
  | .link destination, children => .link destination children
  | .strike, children => .strike children
  | .other kind, children => .other kind children

/-- One cut is made in inline source, or something that says nothing is put in. -/
inductive Recut : List Inline → List Inline → Prop
  | splitText (a b : String) (lineBreak : Option LineBreak) (r : List Inline) :
    Recut (.text (a ++ b) lineBreak :: r) (.text a none :: .text b lineBreak :: r)
  | emptyText (r : List Inline) : Recut r (.text "" none :: r)
  | html (literal : String) (r : List Inline) : Recut r (.html literal :: r)
  | unwrapOther (kind : String) (children r : List Inline) :
    Recut (.other kind children :: r) (children ++ r)
  | splitWrapper (w : Wrapper) (a b r : List Inline) :
    Recut (w.of (a ++ b) :: r) (w.of a :: w.of b :: r)
  | emptyWrapper (w : Wrapper) (r : List Inline) : Recut r (w.of [] :: r)
  | behind (i : Inline) {a b : List Inline} (h : Recut a b) : Recut (i :: a) (i :: b)
  | inside (w : Wrapper) {a b : List Inline} (h : Recut a b) (r : List Inline) :
    Recut (w.of a :: r) (w.of b :: r)

inductive Holder where
  | list (ordered : Bool)
  | item
  | quote
  | other (kind : String)
  deriving DecidableEq, Repr

def Holder.of : Holder → List Block → Block
  | .list ordered, children => .list ordered children
  | .item, children => .item children
  | .quote, children => .quote children
  | .other kind, children => .other kind children

/-- The inline source in one place of a block, at any depth, is cut once. -/
inductive Block.Recut : Block → Block → Prop
  | paragraph {a b : List Inline} (h : Source.Recut a b) : Block.Recut (.paragraph a) (.paragraph b)
  | heading (level : Nat) {a b : List Inline} (h : Source.Recut a b) :
    Block.Recut (.heading level a) (.heading level b)
  | cell (above : List (List (List Inline))) (before : List (List Inline)) {a b : List Inline}
    (h : Source.Recut a b) (after : List (List Inline)) (below : List (List (List Inline))) :
    Block.Recut (.table (above ++ (before ++ a :: after) :: below))
      (.table (above ++ (before ++ b :: after) :: below))
  | inside (holder : Holder) (before : List Block) {a b : Block} (h : Block.Recut a b)
    (after : List Block) :
    Block.Recut (holder.of (before ++ a :: after)) (holder.of (before ++ b :: after))

inductive TreeRecut : List Block → List Block → Prop
  | at (before : List Block) {a b : Block} (h : a.Recut b) (after : List Block) :
    TreeRecut (before ++ a :: after) (before ++ b :: after)

theorem atomsOf_leaves_of (w : Wrapper) (marks : List Mark) (children : List Inline) :
    atomsOf ((w.of children).leaves marks) = atomsOf (walk (marks ++ w.marks) children) := by
  cases w with
  | other kind => rw [Wrapper.of, Inline.leaves, atomsOf_joinRuns, Wrapper.marks, List.append_nil]
  | _ => rw [Wrapper.of, Inline.leaves, atomsOf_joinRuns]; rfl

theorem atomsOf_walk_cons (marks : List Mark) (i : Inline) (r : List Inline) :
    atomsOf (walk marks (i :: r)) = atomsOf (i.leaves marks) ++ atomsOf (walk marks r) := by
  rw [walk, atomsOf_append]

theorem atomsOf_text (marks : List Mark) (literal : String) (lineBreak : Option LineBreak) :
    atomsOf ((Inline.text literal lineBreak).leaves marks) =
      charAtoms literal.toList marks ++ lineBreak.toList.map LineBreak.atom := by
  rw [Inline.leaves, atomsOf_append, atomsOf_textLeaf, atomsOf_lineBreak]

theorem Recut.atomsOf_walk {a b : List Inline} (h : Recut a b) (marks : List Mark) :
    atomsOf (walk marks a) = atomsOf (walk marks b) := by
  induction h generalizing marks with
  | splitText a b lineBreak r =>
    simp only [atomsOf_walk_cons, atomsOf_text, String.toList_append, charAtoms_append,
      Option.toList_none, List.map_nil, List.append_nil, List.append_assoc]
  | emptyText r =>
    have hempty : atomsOf ((Inline.text "" none).leaves marks) = [] := atomsOf_text marks "" none
    rw [atomsOf_walk_cons, hempty, List.nil_append]
  | html literal r =>
    rw [atomsOf_walk_cons, Inline.leaves, atomsOf_nil, List.nil_append]
  | unwrapOther kind children r =>
    -- a wrapper of an unknown kind adds no marks
    have hchildren := atomsOf_leaves_of (.other kind) marks children
    rw [Wrapper.marks, List.append_nil] at hchildren
    rw [atomsOf_walk_cons, walk_append, atomsOf_append, ← hchildren]
    rfl
  | splitWrapper w a b r =>
    simp only [atomsOf_walk_cons, atomsOf_leaves_of, walk_append, atomsOf_append,
      List.append_assoc]
  | emptyWrapper w r =>
    rw [atomsOf_walk_cons, atomsOf_leaves_of, walk, atomsOf_nil, List.nil_append]
  | behind i _ ih => rw [atomsOf_walk_cons, atomsOf_walk_cons, ih]
  | inside w _ r ih =>
    rw [atomsOf_walk_cons, atomsOf_walk_cons, atomsOf_leaves_of, atomsOf_leaves_of, ih]

theorem SoundLeaf.text?_ne {n : Node} (h : SoundLeaf n) : n.text? ≠ some "" := by
  intro htext
  cases n with
  | text literal marks =>
    cases htext
    have hsound : ("" != "") = true := h.2
    exact absurd hsound (by decide)
  | _ => cases htext

theorem leaves_eq_atoms (marks : List Mark) (inlines : List Inline) :
    leaves marks inlines = joinRuns ((atomsOf (walk marks inlines)).map Atom.node) :=
  joinRuns_eq_atoms _ (fun n hn => (soundLeaf_walk marks inlines n hn).1)
    fun n hn => (soundLeaf_walk marks inlines n hn).text?_ne

theorem Recut.leaves_eq {a b : List Inline} (h : Recut a b) (marks : List Mark) :
    leaves marks a = leaves marks b := by
  rw [leaves_eq_atoms, leaves_eq_atoms, h.atomsOf_walk]

theorem nodes_append (a b : List Block) : nodes (a ++ b) = nodes a ++ nodes b := by
  simp only [nodes_eq_filterMap, List.filterMap_append]

def Block.itemNode? : Block → Option Node
  | .item children => some (.listItem (nodes children))
  | _ => none

theorem itemNodes_eq_filterMap (blocks : List Block) :
    itemNodes blocks = blocks.filterMap Block.itemNode? := by
  induction blocks with
  | nil => rw [itemNodes, List.filterMap_nil]
  | cons b r ih => cases b <;> simp [itemNodes, Block.itemNode?, List.filterMap_cons, ih]

/-- Two blocks that become the same node, also as children of a list. -/
def Block.Same (a b : Block) : Prop :=
  a.node? = b.node? ∧ a.itemNode? = b.itemNode?

namespace Block.Same
variable {a b : Block}

theorem nodes_eq (h : a.Same b) (before after : List Block) :
    nodes (before ++ a :: after) = nodes (before ++ b :: after) := by
  simp only [nodes_append, nodes, h.1]

theorem itemNodes_eq (h : a.Same b) (before after : List Block) :
    itemNodes (before ++ a :: after) = itemNodes (before ++ b :: after) := by
  simp only [itemNodes_eq_filterMap, List.filterMap_append, List.filterMap_cons, h.2]

theorem inside (h : a.Same b) (holder : Holder) (before after : List Block) :
    (holder.of (before ++ a :: after)).Same (holder.of (before ++ b :: after)) := by
  have hnodes := h.nodes_eq before after
  cases holder with
  | list ordered =>
    refine ⟨?_, rfl⟩
    rw [Holder.of, Holder.of, Block.node?, Block.node?, h.itemNodes_eq]
  | item =>
    refine ⟨?_, ?_⟩
    · rw [Holder.of, Holder.of, Block.node?, Block.node?, hnodes]
    · rw [Holder.of, Holder.of, itemNode?, itemNode?, hnodes]
  | quote =>
    refine ⟨?_, rfl⟩
    rw [Holder.of, Holder.of, Block.node?, Block.node?, hnodes]
  | other kind =>
    refine ⟨?_, rfl⟩
    rw [Holder.of, Holder.of, Block.node?, Block.node?, hnodes]

end Block.Same

theorem cellNode_eq {a b : List Inline} (h : Recut a b) (header : Bool) :
    cellNode header a = cellNode header b := by
  unfold cellNode
  rw [h.leaves_eq]

theorem rowNode_eq {a b : List Inline} (h : Recut a b) (header : Bool)
    (before after : List (List Inline)) :
    rowNode header (before ++ a :: after) = rowNode header (before ++ b :: after) := by
  simp only [rowNode, List.map_append, List.map_cons, cellNode_eq h]

theorem tableNode_eq {a b : List Inline} (h : Recut a b) (above : List (List (List Inline)))
    (before after : List (List Inline)) (below : List (List (List Inline))) :
    tableNode (above ++ (before ++ a :: after) :: below) =
      tableNode (above ++ (before ++ b :: after) :: below) := by
  cases above with
  | nil => simp only [List.nil_append, tableNode, rowNode_eq h]
  | cons header above =>
    simp only [List.cons_append, tableNode, List.map_append, List.map_cons, rowNode_eq h]

theorem Block.Recut.same {a b : Block} (h : a.Recut b) : a.Same b := by
  -- the induction goes from the place of the cut outwards
  induction h with
  | paragraph h =>
    refine ⟨?_, rfl⟩
    rw [Block.node?, Block.node?, h.leaves_eq]
  | heading level h =>
    refine ⟨?_, rfl⟩
    rw [Block.node?, Block.node?, h.leaves_eq]
  | cell above before h after below =>
    refine ⟨?_, rfl⟩
    rw [Block.node?, Block.node?, tableNode_eq h]
  | inside holder before _ after ih => exact ih.inside holder before after

theorem TreeRecut.document_eq {a b : List Block} (h : TreeRecut a b) :
    document a = document b := by
  obtain ⟨before, hblock, after⟩ := h
  unfold document
  rw [hblock.same.nodes_eq]

/-- However a source tree is cut and glued together again, it becomes the same document. -/
theorem document_of_recuts {a b : List Block} (h : Relation.EqvGen TreeRecut a b) :
    document a = document b := by
  induction h with
  | rel a b hrecut => exact hrecut.document_eq
  | refl a => rfl
  | symm a b _ ih => exact ih.symm
  | trans a b c _ _ hab hbc => exact hab.trans hbc

theorem document_of_recuts_quoted :
    let a : List Block :=
      [.quote [.paragraph [.text ("a" ++ "b") (some .hard), .emphasis 2 [.code "c", .strike []]]]]
    let b : List Block :=
      [.quote [.paragraph [.text "a" none, .html "<i>", .text "b" (some .hard),
        .emphasis 2 [.code "c"], .emphasis 2 []]]]
    Relation.EqvGen TreeRecut a b ∧ document a = document b := by
  intro a b
  have hquoted {x y : List Inline} (h : Recut x y) :
      TreeRecut [.quote [.paragraph x]] [.quote [.paragraph y]] :=
    .at [] (.inside .quote [] (.paragraph h) []) []
  have hsplit := hquoted (.splitText "a" "b" (some .hard) [.emphasis 2 [.code "c", .strike []]])
  have hhtml := hquoted (.behind (.text "a" none) (.html "<i>"
    [.text "b" (some .hard), .emphasis 2 [.code "c", .strike []]]))
  have hstrike := hquoted (.behind (.text "a" none) (.behind (.html "<i>")
    (.behind (.text "b" (some .hard))
      (.inside (.emphasis 2) (.behind (.code "c") (.emptyWrapper .strike [])) []))))
  have hstrong := hquoted (.behind (.text "a" none) (.behind (.html "<i>")
    (.behind (.text "b" (some .hard)) (.behind (.emphasis 2 [.code "c"])
      (.emptyWrapper (.emphasis 2) [])))))
  have hrecuts : Relation.EqvGen TreeRecut a b :=
    .trans _ _ _ (.rel _ _ hsplit) (.trans _ _ _ (.rel _ _ hhtml)
      (.trans _ _ _ (.symm _ _ (.rel _ _ hstrike)) (.rel _ _ hstrong)))
  exact ⟨hrecuts, document_of_recuts hrecuts⟩

end MarkdownToAdf.Source
