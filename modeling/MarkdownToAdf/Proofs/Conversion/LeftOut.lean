import MarkdownToAdf.Conversion.Block
import MarkdownToAdf.Proofs.Adf.Runs

set_option autoImplicit false

/-!
# What is left out

A block that the document format cannot express, and an item outside of a list, give way to what
they hold, however deep it is: to the first block with a counterpart that is no blank paragraph.
Only blank paragraphs are left out.
-/
namespace MarkdownToAdf.Source
open Adf

mutual

/-- The blocks with a counterpart that are reached from a block, itself included, through items
and blocks without one, in order. -/
def Block.mapped : Block → List Block
  | .item children => mappedIn children
  | .other _ children => mappedIn children
  | b => [b]

def mappedIn : List Block → List Block
  | [] => []
  | b :: r => b.mapped ++ mappedIn r

end

mutual

/-- Is there nothing to be seen of an inline? A break and the card of a page are always seen. -/
def Inline.isBlank : Inline → Bool
  | .text literal lineBreak => literal.isEmpty && lineBreak.isNone
  | .code literal => literal.isEmpty
  | .image destination alt => alt.isEmpty && destination.isEmpty
  | .autolink url label .email => label.isEmpty && url.isEmpty
  | .autolink _ _ .url => false
  | .html _ => true
  | .emphasis _ children | .link _ children | .strike children | .other _ children =>
    allBlank children

def allBlank : List Inline → Bool
  | [] => true
  | i :: r => i.isBlank && allBlank r

end

def Block.isBlankParagraph : Block → Bool
  | .paragraph content => allBlank content
  | _ => false

theorem joinRuns_eq_nil_iff (nodes : List Node) : joinRuns nodes = [] ↔ nodes = [] := by
  cases nodes with
  | nil => simp
  | cons n r =>
    rw [joinRuns_cons]
    obtain ⟨heq, -⟩ | ⟨s, t, ms, r', -, -, heq⟩ := joinFront_cases n (joinRuns r)
    · simp [heq]
    · simp [heq]

theorem textLeaf_eq_nil_iff (literal : String) (marks : List Mark) :
    textLeaf literal marks = [] ↔ literal = "" := by
  unfold textLeaf
  split <;> simp [*]

theorem textLeaf_orElse_eq_nil_iff (first second : String) (marks : List Mark) :
    textLeaf (orElse first second) marks = [] ↔ first = "" ∧ second = "" := by
  rw [textLeaf_eq_nil_iff, orElse]
  split <;> simp [*]

mutual

theorem leaves_eq_nil_iff (marks : List Mark) :
    (i : Inline) → (i.leaves marks = [] ↔ i.isBlank = true)
  | .text literal lineBreak => by
    rw [Inline.leaves, Inline.isBlank, List.append_eq_nil_iff, textLeaf_eq_nil_iff]
    cases lineBreak <;> simp
  | .code literal => by
    rw [Inline.leaves, Inline.isBlank, textLeaf_eq_nil_iff, String.isEmpty_iff]
  | .image destination alt => by
    rw [Inline.leaves, Inline.isBlank, textLeaf_orElse_eq_nil_iff]
    simp
  | .autolink url label .email => by
    rw [Inline.leaves, Inline.isBlank, textLeaf_orElse_eq_nil_iff]
    simp
  | .autolink url label .url => by simp [Inline.leaves, Inline.isBlank]
  | .html _ => by simp [Inline.leaves, Inline.isBlank]
  | .emphasis _ children => by
    rw [Inline.leaves, Inline.isBlank, joinRuns_eq_nil_iff, walk_eq_nil_iff]
  | .link _ children => by
    rw [Inline.leaves, Inline.isBlank, joinRuns_eq_nil_iff, walk_eq_nil_iff]
  | .strike children => by
    rw [Inline.leaves, Inline.isBlank, joinRuns_eq_nil_iff, walk_eq_nil_iff]
  | .other _ children => by
    rw [Inline.leaves, Inline.isBlank, joinRuns_eq_nil_iff, walk_eq_nil_iff]

theorem walk_eq_nil_iff (marks : List Mark) :
    (inlines : List Inline) → (walk marks inlines = [] ↔ allBlank inlines = true)
  | [] => by simp [walk, allBlank]
  | i :: r => by
    rw [walk, allBlank, List.append_eq_nil_iff, Bool.and_eq_true, leaves_eq_nil_iff,
      walk_eq_nil_iff]

end

theorem paragraphNode?_eq_none_iff (content : List Inline) :
    paragraphNode? (leaves [] content) = none ↔ allBlank content = true := by
  rw [← walk_eq_nil_iff [], ← joinRuns_eq_nil_iff, ← leaves]
  cases leaves [] content <;> simp [paragraphNode?]

def Block.hasCounterpart : Block → Bool
  | .item _ | .other _ _ => false
  | _ => true

theorem node?_eq_none_iff (b : Block) (h : b.hasCounterpart = true) :
    b.node? = none ↔ b.isBlankParagraph = true := by
  cases b with
  | paragraph content => rw [Block.node?, paragraphNode?_eq_none_iff, Block.isBlankParagraph]
  | item | other => cases h
  | _ => simp [Block.node?, Block.isBlankParagraph]

mutual

theorem hasCounterpart_of_mem_mapped : (b : Block) → ∀ c ∈ b.mapped, c.hasCounterpart = true
  | .item children => by
    rw [Block.mapped]
    exact hasCounterpart_of_mem_mappedIn children
  | .other _ children => by
    rw [Block.mapped]
    exact hasCounterpart_of_mem_mappedIn children
  | .paragraph _ | .heading _ _ | .list _ _ | .code _ | .quote _ | .rule | .table _ => by
    simp [Block.mapped, Block.hasCounterpart]

theorem hasCounterpart_of_mem_mappedIn :
    (blocks : List Block) → ∀ c ∈ mappedIn blocks, c.hasCounterpart = true
  | [] => by simp [mappedIn]
  | b :: r => by
    rw [mappedIn]
    exact List.forall_mem_append.2
      ⟨hasCounterpart_of_mem_mapped b, hasCounterpart_of_mem_mappedIn r⟩

end

mutual

theorem node?_eq_findSome? : (b : Block) → b.node? = b.mapped.findSome? Block.node?
  | .item children => by rw [Block.node?, Block.mapped, head?_nodes]
  | .other _ children => by rw [Block.node?, Block.mapped, head?_nodes]
  | .paragraph _ | .heading _ _ | .list _ _ | .code _ | .quote _ | .rule | .table _ => by
    simp only [Block.mapped, List.findSome?_singleton]

theorem head?_nodes :
    (blocks : List Block) → (nodes blocks).head? = (mappedIn blocks).findSome? Block.node?
  | [] => by rw [nodes, mappedIn, List.head?_nil, List.findSome?_nil]
  | b :: r => by
    rw [nodes, mappedIn, List.head?_append, List.findSome?_append, head?_nodes r,
      ← node?_eq_findSome? b, Option.head?_toList]

end

theorem findSome?_node?_eq (blocks : List Block)
    (h : ∀ c ∈ blocks, c.node? = none ↔ c.isBlankParagraph = true) :
    blocks.findSome? Block.node? =
      (blocks.find? fun c => !c.isBlankParagraph).bind Block.node? := by
  induction blocks with
  | nil => rfl
  | cons b r ih =>
    obtain ⟨hb, hr⟩ := List.forall_mem_cons.1 h
    rw [List.findSome?_cons, List.find?_cons]
    cases hnode : b.node? with
    | none => rw [hb.1 hnode, Bool.not_true, ih hr]
    | some n =>
      have hseen : b.isBlankParagraph = false := by
        rw [← Bool.not_eq_true, ← hb, hnode]
        exact Option.some_ne_none n
      rw [hseen, Bool.not_false, Option.bind_some, hnode]

/-- A block becomes what the first block with a counterpart in it becomes that is no blank
paragraph. It is left out if and only if there are none but blank paragraphs. -/
theorem node?_of_mapped (b : Block) :
    b.node? = (b.mapped.find? fun c => !c.isBlankParagraph).bind Block.node? ∧
      (b.node? = none ↔ ∀ c ∈ b.mapped, c.isBlankParagraph = true) := by
  have hmapped : ∀ c ∈ b.mapped, c.node? = none ↔ c.isBlankParagraph = true := fun c hc =>
    node?_eq_none_iff c (hasCounterpart_of_mem_mapped b c hc)
  constructor
  · rw [node?_eq_findSome?, findSome?_node?_eq _ hmapped]
  · rw [node?_eq_findSome?, List.findSome?_eq_none_iff]
    exact forall₂_congr hmapped

end MarkdownToAdf.Source
