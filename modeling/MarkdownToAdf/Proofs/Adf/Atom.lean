import MarkdownToAdf.Proofs.Adf.Runs

set_option autoImplicit false

/-!
# Atoms

What a tree says, without how it is cut: every character with its marks, every hard break,
card and rule, in the order in which they are met. Joining runs changes no atom.
-/
namespace MarkdownToAdf.Adf

inductive Atom where
  | char (c : Char) (marks : List Mark)
  | hardBreak
  | card (url : String)
  | rule
  deriving DecidableEq, Repr

def charAtoms (text : List Char) (marks : List Mark) : List Atom :=
  text.map fun c => .char c marks

theorem charAtoms_append (s t : List Char) (marks : List Mark) :
    charAtoms (s ++ t) marks = charAtoms s marks ++ charAtoms t marks :=
  List.map_append

/-- What a node says apart from its children. -/
def Node.own : Node → List Atom
  | text literal marks => charAtoms literal.toList marks
  | hardBreak => [.hardBreak]
  | inlineCard url => [.card url]
  | rule => [.rule]
  | _ => []

/-- The atoms of a list of trees, parents first and in order. -/
def atomsOf (nodes : List Node) : List Atom :=
  (Node.preorderList nodes).flatMap Node.own

def Document.atoms (d : Document) : List Atom :=
  atomsOf d.content

@[simp] theorem atomsOf_nil : atomsOf [] = [] := rfl

theorem atomsOf_append (a b : List Node) : atomsOf (a ++ b) = atomsOf a ++ atomsOf b := by
  unfold atomsOf
  rw [Node.preorderList_append, List.flatMap_append]

theorem atomsOf_cons (n : Node) (r : List Node) :
    atomsOf (n :: r) = n.own ++ atomsOf n.content ++ atomsOf r := by
  unfold atomsOf
  rw [Node.preorderList, Node.preorder_eq, List.flatMap_append, List.flatMap_cons]

theorem atomsOf_singleton (n : Node) : atomsOf [n] = n.own ++ atomsOf n.content := by
  rw [atomsOf_cons, atomsOf_nil, List.append_nil]

theorem atomsOf_map {α : Type} (f : α → Node) (l : List α) :
    atomsOf (l.map f) = l.flatMap fun x => atomsOf [f x] := by
  induction l with
  | nil => rfl
  | cons x l ih => rw [List.map_cons, atomsOf_cons, ih, List.flatMap_cons, atomsOf_singleton]

theorem atomsOf_of_isLeaf (nodes : List Node) (h : ∀ n ∈ nodes, n.isLeaf = true) :
    atomsOf nodes = nodes.flatMap Node.own := by
  induction nodes with
  | nil => rfl
  | cons n r ih =>
    obtain ⟨hn, hr⟩ := List.forall_mem_cons.1 h
    have hcontent : n.content = [] := n.content_eq_nil_of_isLeaf hn
    rw [atomsOf_cons, hcontent, atomsOf_nil, List.append_nil, ih hr, List.flatMap_cons]

theorem atomsOf_joinFront (n : Node) (r : List Node) :
    atomsOf (joinFront n r) = atomsOf (n :: r) := by
  obtain ⟨heq, -⟩ | ⟨s, t, ms, r', rfl, rfl, heq⟩ := joinFront_cases n r
  · rw [heq]
  · rw [heq]
    simp only [atomsOf_cons, Node.own, Node.content, atomsOf_nil, String.toList_append,
      charAtoms_append, List.append_assoc, List.append_nil]

theorem atomsOf_joinRuns (nodes : List Node) : atomsOf (joinRuns nodes) = atomsOf nodes := by
  induction nodes with
  | nil => rfl
  | cons n r ih => rw [joinRuns_cons, atomsOf_joinFront, atomsOf_cons, ih, ← atomsOf_cons]

end MarkdownToAdf.Adf
