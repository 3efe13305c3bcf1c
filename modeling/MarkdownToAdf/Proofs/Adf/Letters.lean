import MarkdownToAdf.Proofs.Adf.Atom

set_option autoImplicit false

/-!
# Runs and letters

A run of text is as good as its letters, each a text of its own: joining the letters gives the
run back. So the joined runs of leaves are settled by the atoms of the leaves.
-/
namespace MarkdownToAdf.Adf

def letter (marks : List Mark) (c : Char) : Node :=
  .text (String.singleton c) marks

/-- A text in its letters. Other nodes have none and stay as they are. -/
def Node.letters : Node → List Node
  | text literal marks => literal.toList.map (letter marks)
  | n => [n]

theorem foldr_letters (c : Char) (text : List Char) (marks : List Mark) (r : List Node) :
    ((c :: text).map (letter marks)).foldr joinFront r =
      joinFront (.text (String.ofList (c :: text)) marks) r := by
  have hletters : (c :: text).map (letter marks) =
      ((c :: text).map String.singleton).map (Node.text · marks) := by
    rw [List.map_map]
    rfl
  have hjoined : String.join ((c :: text).map String.singleton) = String.ofList (c :: text) := by
    refine String.toList_inj.1 ?_
    simp [String.toList_join, List.flatMap_map]
  rw [hletters, List.map_cons, foldr_texts, ← List.map_cons, hjoined]

theorem joinRuns_letters_append (n : Node) (h : n.text? ≠ some "") (r : List Node) :
    joinRuns (n.letters ++ r) = joinFront n (joinRuns r) := by
  rw [joinRuns_append]
  cases n with
  | text literal marks =>
    have hne : literal.toList ≠ [] := fun hnil => h (congrArg some (String.toList_eq_nil_iff.1 hnil))
    obtain ⟨c, text, htext⟩ := List.exists_cons_of_ne_nil hne
    have hliteral : literal = String.ofList (c :: text) := by rw [← htext, String.ofList_toList]
    rw [Node.letters, htext, foldr_letters, hliteral]
  | _ => rfl

theorem joinRuns_flatMap_letters (nodes : List Node) (h : ∀ n ∈ nodes, n.text? ≠ some "") :
    joinRuns (nodes.flatMap Node.letters) = joinRuns nodes := by
  induction nodes with
  | nil => rfl
  | cons n r ih =>
    obtain ⟨hn, hr⟩ := List.forall_mem_cons.1 h
    rw [List.flatMap_cons, joinRuns_letters_append n hn, ih hr, joinRuns_cons]

def Atom.node : Atom → Node
  | char c marks => letter marks c
  | hardBreak => .hardBreak
  | card url => .inlineCard url
  | rule => .rule

theorem letters_eq_own (n : Node) (h : n.isLeaf = true) : n.letters = n.own.map Atom.node := by
  cases n with
  | text literal marks => simp [Node.letters, Node.own, charAtoms, Atom.node]
  | hardBreak => rfl
  | inlineCard url => rfl
  | _ => cases h

theorem joinRuns_eq_atoms (nodes : List Node) (hleaf : ∀ n ∈ nodes, n.isLeaf = true)
    (htext : ∀ n ∈ nodes, n.text? ≠ some "") :
    joinRuns nodes = joinRuns ((atomsOf nodes).map Atom.node) := by
  have hletters : nodes.flatMap Node.letters = (atomsOf nodes).map Atom.node := by
    rw [atomsOf_of_isLeaf nodes hleaf, List.map_flatMap]
    exact List.flatMap_congr fun n hn => letters_eq_own n (hleaf n hn)
  rw [← joinRuns_flatMap_letters nodes htext, hletters]

end MarkdownToAdf.Adf
