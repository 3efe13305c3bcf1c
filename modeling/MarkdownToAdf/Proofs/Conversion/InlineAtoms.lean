import MarkdownToAdf.Proofs.Adf.Atom
import MarkdownToAdf.Proofs.Conversion.WellFormed

set_option autoImplicit false

/-!
# The atoms of inline source

What inline source says can be told without converting it: every inline that holds no others
speaks for itself, and the wrappers around it only add their marks. Conversion gives exactly
these atoms, in the same order.
-/
namespace MarkdownToAdf.Source
open Adf

/-- What may stand around inline content. -/
inductive Wrapper where
  | emphasis (level : Nat)
  | link (destination : String)
  | strike
  | other (kind : String)
  deriving DecidableEq, Repr

def Wrapper.marks : Wrapper → List Mark
  | .emphasis level => [if level = 2 then .strong else .em]
  | .link destination => [.link destination]
  | .strike => [.strike]
  | .other _ => []

mutual

/-- The inlines that hold no others, each with the wrappers around it, outermost first. -/
def Inline.occurrences (around : List Wrapper) : Inline → List (List Wrapper × Inline)
  | .emphasis level children => occurrencesIn (around ++ [.emphasis level]) children
  | .link destination children => occurrencesIn (around ++ [.link destination]) children
  | .strike children => occurrencesIn (around ++ [.strike]) children
  | .other kind children => occurrencesIn (around ++ [.other kind]) children
  | .text literal lineBreak => [(around, .text literal lineBreak)]
  | .code literal => [(around, .code literal)]
  | .autolink url label kind => [(around, .autolink url label kind)]
  | .image destination alt => [(around, .image destination alt)]
  | .html literal => [(around, .html literal)]

def occurrencesIn (around : List Wrapper) : List Inline → List (List Wrapper × Inline)
  | [] => []
  | i :: r => i.occurrences around ++ occurrencesIn around r

end

def LineBreak.atom : LineBreak → Atom
  | .soft => .char ' ' []
  | .hard => .hardBreak

/-- What an inline says apart from its children, under the marks around it. -/
def Inline.own (marks : List Mark) : Inline → List Atom
  | .text literal lineBreak =>
    charAtoms literal.toList marks ++ lineBreak.toList.map LineBreak.atom
  | .code literal => charAtoms literal.toList (marks ++ [.code])
  | .autolink url _ .url => [.card url]
  | .autolink url label .email =>
    charAtoms (if label.isEmpty then url else label).toList (marks ++ [.link url])
  | .image destination alt =>
    charAtoms (if alt.isEmpty then destination else alt).toList (marks ++ [.link destination])
  | .html _ => []
  | .emphasis _ _ | .link _ _ | .strike _ | .other _ _ => []

def occurrenceAtoms (marks : List Mark) (o : List Wrapper × Inline) : List Atom :=
  o.2.own (marks ++ o.1.flatMap Wrapper.marks)

def inlineAtoms (marks : List Mark) (inlines : List Inline) : List Atom :=
  (occurrencesIn [] inlines).flatMap (occurrenceAtoms marks)

theorem atomsOf_textLeaf (literal : String) (marks : List Mark) :
    atomsOf (textLeaf literal marks) = charAtoms literal.toList marks := by
  unfold textLeaf
  split
  · rename_i h
    rw [h]
    rfl
  · rw [atomsOf_singleton]
    exact List.append_nil _

theorem atomsOf_lineBreak (lineBreak : Option LineBreak) :
    atomsOf (lineBreak.map LineBreak.leaf).toList = lineBreak.toList.map LineBreak.atom := by
  cases lineBreak with
  | none => rfl
  | some b => cases b <;> rfl

theorem orElse_eq (first second : String) :
    orElse first second = if first.isEmpty then second else first := by
  unfold orElse
  by_cases h : first = "" <;> simp [h]

section
variable (marks : List Mark)

theorem atomsOf_wrapped (around : List Wrapper) (w : Wrapper) (children : List Inline)
    (h : atomsOf (walk (marks ++ (around ++ [w]).flatMap Wrapper.marks) children) =
      (occurrencesIn (around ++ [w]) children).flatMap (occurrenceAtoms marks)) :
    atomsOf (joinRuns (walk (marks ++ around.flatMap Wrapper.marks ++ w.marks) children)) =
      (occurrencesIn (around ++ [w]) children).flatMap (occurrenceAtoms marks) := by
  rw [List.flatMap_append, List.flatMap_singleton, ← List.append_assoc] at h
  rw [atomsOf_joinRuns, h]

mutual

theorem atomsOf_inline (around : List Wrapper) :
    (i : Inline) → atomsOf (i.leaves (marks ++ around.flatMap Wrapper.marks)) =
      (i.occurrences around).flatMap (occurrenceAtoms marks)
  | .text literal lineBreak => by
    rw [Inline.leaves, Inline.occurrences, atomsOf_append, atomsOf_textLeaf, atomsOf_lineBreak,
      List.flatMap_singleton]
    rfl
  | .emphasis level children => by
    rw [Inline.leaves, Inline.occurrences]
    exact atomsOf_wrapped marks around (.emphasis level) children (atomsOf_walk _ children)
  | .code literal => by
    rw [Inline.leaves, Inline.occurrences, atomsOf_textLeaf, List.flatMap_singleton]
    rfl
  | .link destination children => by
    rw [Inline.leaves, Inline.occurrences]
    exact atomsOf_wrapped marks around (.link destination) children (atomsOf_walk _ children)
  | .autolink url label .url => by
    rw [Inline.leaves, Inline.occurrences, List.flatMap_singleton]
    rfl
  | .autolink url label .email => by
    rw [Inline.leaves, Inline.occurrences, atomsOf_textLeaf, orElse_eq, List.flatMap_singleton]
    rfl
  | .image destination alt => by
    rw [Inline.leaves, Inline.occurrences, atomsOf_textLeaf, orElse_eq, List.flatMap_singleton]
    rfl
  | .strike children => by
    rw [Inline.leaves, Inline.occurrences]
    exact atomsOf_wrapped marks around .strike children (atomsOf_walk _ children)
  | .html _ => by
    rw [Inline.leaves, Inline.occurrences, List.flatMap_singleton]
    rfl
  | .other kind children => by
    rw [Inline.leaves, Inline.occurrences]
    have h := atomsOf_wrapped marks around (.other kind) children (atomsOf_walk _ children)
    rwa [Wrapper.marks, List.append_nil] at h

theorem atomsOf_walk (around : List Wrapper) :
    (inlines : List Inline) → atomsOf (walk (marks ++ around.flatMap Wrapper.marks) inlines) =
      (occurrencesIn around inlines).flatMap (occurrenceAtoms marks)
  | [] => by
    rw [walk, occurrencesIn]
    rfl
  | i :: r => by
    rw [walk, occurrencesIn, atomsOf_append, List.flatMap_append, atomsOf_inline around i,
      atomsOf_walk around r]

end

theorem atomsOf_leaves (inlines : List Inline) :
    atomsOf (leaves marks inlines) = inlineAtoms marks inlines := by
  have h := atomsOf_walk marks [] inlines
  rw [List.flatMap_nil, List.append_nil] at h
  rw [leaves, atomsOf_joinRuns, h, inlineAtoms]

/-- Conversion gives leaves only. It moves no character, loses none and gives each the marks
of its wrappers. -/
theorem flatMap_own_leaves (inlines : List Inline) :
    (∀ n ∈ leaves marks inlines, n.isLeaf = true) ∧
      (leaves marks inlines).flatMap Node.own = inlineAtoms marks inlines := by
  have hleaf : ∀ n ∈ leaves marks inlines, n.isLeaf = true := fun n hn =>
    (soundLeaf_leaves marks inlines n hn).1
  refine ⟨hleaf, ?_⟩
  rw [← atomsOf_of_isLeaf _ hleaf, atomsOf_leaves]

end

end MarkdownToAdf.Source
