import MarkdownToAdf.Adf.Node
import MarkdownToAdf.Text.Blank
import Mathlib.Data.List.Chain

set_option autoImplicit false

/-!
# The grammar of documents

Which nodes may stand where. Every rule looks at one node and its direct children, and a
document is well formed if its own children are blocks and every node below keeps its rule.
-/
namespace MarkdownToAdf.Adf
open Text

/-- Two texts that stand side by side differ in their marks. -/
def Node.Apart (a b : Node) : Prop :=
  a.text?.isSome → b.text?.isSome → a.marks ≠ b.marks

instance (a b : Node) : Decidable (a.Apart b) :=
  inferInstanceAs (Decidable (a.text?.isSome → b.text?.isSome → a.marks ≠ b.marks))

abbrev Separated (nodes : List Node) : Prop :=
  nodes.IsChain Node.Apart

namespace Node

/-- What may stand in a document, a quote or an item. A paragraph is not empty there. -/
def isBlock : Node → Bool
  | paragraph c => !c.isEmpty
  | heading _ _ | bulletList _ | orderedList _ | codeBlock _ _ | blockquote _ | rule
  | table _ _ => true
  | _ => false

def isItem : Node → Bool
  | listItem _ => true
  | _ => false

def isHeader : Node → Bool
  | tableHeader _ => true
  | _ => false

def isCell : Node → Bool
  | tableCell _ => true
  | _ => false

def isRowOf (cell : Node → Bool) : Node → Bool
  | tableRow c => c.all cell
  | _ => false

end Node

def isOneParagraph : List Node → Bool
  | [.paragraph _] => true
  | _ => false

def isPlain : List Node → Bool
  | [] | [.text _ []] => true
  | _ => false

def isHeaded : List Node → Bool
  | [] => true
  | header :: rows => header.isRowOf Node.isHeader && rows.all (Node.isRowOf Node.isCell)

def isWord (s : String) : Bool :=
  s != "" && s.toList.all fun c => !isBlank c

/-- The rule for a node of each kind. What a row holds is ruled by its table. -/
def Node.sound : Node → Bool
  | paragraph c | heading _ c => c.all isLeaf
  | bulletList c | orderedList c => c.all isItem
  | listItem c | blockquote c => c.all isBlock
  | codeBlock language c => language.all isWord && isPlain c
  | table _ c => isHeaded c
  | tableHeader c | tableCell c => isOneParagraph c
  | text literal _ => literal != ""
  | rule | tableRow _ | hardBreak | inlineCard _ => true

/-- Every node of a tree keeps its rule, and no two texts in it can be joined. -/
def Node.WellFormed (n : Node) : Prop :=
  ∀ m ∈ n.preorder, m.sound = true ∧ Separated m.content

structure Document.WellFormed (d : Document) : Prop where
  version : d.version = 1
  blocks : ∀ n ∈ d.content, n.isBlock = true
  separated : Separated d.content
  nodes : ∀ n ∈ Node.preorderList d.content, n.sound = true ∧ Separated n.content

instance (d : Document) : Decidable d.WellFormed :=
  decidable_of_iff
    (d.version = 1 ∧ (∀ n ∈ d.content, n.isBlock = true) ∧ Separated d.content ∧
      ∀ n ∈ Node.preorderList d.content, n.sound = true ∧ Separated n.content)
    ⟨fun h => ⟨h.1, h.2.1, h.2.2.1, h.2.2.2⟩,
      fun h => ⟨h.version, h.blocks, h.separated, h.nodes⟩⟩

example : ¬ Document.WellFormed ⟨1, [.blockquote [.paragraph []]]⟩ := by
  decide

theorem Node.mem_preorderList (m : Node) (nodes : List Node) :
    m ∈ preorderList nodes ↔ ∃ n ∈ nodes, m ∈ n.preorder := by
  induction nodes with
  | nil => simp [preorderList]
  | cons n r ih => simp [preorderList, ih]

theorem Node.wellFormed_iff (n : Node) :
    n.WellFormed ↔ n.sound = true ∧ Separated n.content ∧ ∀ m ∈ n.content, m.WellFormed := by
  unfold Node.WellFormed
  rw [preorder_eq]
  simp only [List.forall_mem_cons, mem_preorderList, forall_exists_index, and_imp, and_assoc]
  refine and_congr_right fun _ => and_congr_right fun _ => ?_
  exact ⟨fun h m hm k hk => h k m hm hk, fun h k m hm hk => h m hm k hk⟩

theorem separated_of_forall (nodes : List Node) (h : ∀ n ∈ nodes, n.text? = none) :
    Separated nodes := by
  induction nodes with
  | nil => exact .nil
  | cons n r ih =>
    have hn : n.text? = none := h n (List.mem_cons_self ..)
    refine List.isChain_cons.2 ⟨fun m _ ht => ?_, ih fun m hm => h m (List.mem_cons_of_mem _ hm)⟩
    rw [hn] at ht
    cases ht

theorem Node.content_eq_nil_of_isLeaf (n : Node) (h : n.isLeaf = true) : n.content = [] := by
  cases n <;> first | rfl | cases h

theorem Node.text?_eq_none_of_isBlock (n : Node) (h : n.isBlock = true) : n.text? = none := by
  cases n with
  | text => cases h
  | _ => rfl

end MarkdownToAdf.Adf
