import MarkdownToAdf.Proofs.Conversion.Recutting
import MarkdownToAdf.Source.OfSpan

set_option autoImplicit false

/-!
# Line breaks in inline source

A line break is kept with the text before it. In the document nobody can tell: it stands where it
would stand by itself, between the same neighbours and as the same kind of break.
-/
namespace MarkdownToAdf.Source
open Adf Markdown

def keepBreak (kind : LineBreak) (inlines : List Inline) : List Inline :=
  match inlines.getLast? with
  | some (.text literal none) => inlines.dropLast ++ [.text literal (some kind)]
  | _ => inlines ++ [.text "" (some kind)]

/-- What one more span makes of the inlines before it. -/
def takeSpan (table : LineTable) (inlines : List Inline) : Span → List Inline
  | .softBreak => keepBreak .soft inlines
  | .hardBreak => keepBreak .hard inlines
  | s => inlines ++ [inlineOf table s]

theorem keepBreak_cons (kind : LineBreak) (i : Inline) {inlines : List Inline}
    (h : inlines ≠ []) : keepBreak kind (i :: inlines) = i :: keepBreak kind inlines := by
  obtain ⟨j, r, rfl⟩ := List.exists_cons_of_ne_nil h
  unfold keepBreak
  rw [List.getLast?_cons_cons]
  split <;> simp [*]

mutual

/-- A span as inline source in which a break has no text but the empty one. -/
def unfoldedOf (table : LineTable) : Span → Inline
  | .text literal => .text literal none
  | .softBreak => .text "" (some .soft)
  | .hardBreak => .text "" (some .hard)
  | .code literal => .code literal
  | .html literal => .html literal
  | .emph children => .emphasis 1 (unfolded table children)
  | .strong children => .emphasis 2 (unfolded table children)
  | .strike children => .strike (unfolded table children)
  | .image destination children => .image destination (spansText children)
  | .other kind children => .other kind (unfolded table children)
  | .link destination position children =>
    let label := spansText children
    if isAutolink table position destination label then
      .autolink destination label (addressKind destination)
    else .link destination (unfolded table children)

def unfolded (table : LineTable) : List Span → List Inline
  | [] => []
  | s :: r => unfoldedOf table s :: unfolded table r

end

section
variable (table : LineTable)

theorem takeSpan_cons (i : Inline) {inlines : List Inline} (h : inlines ≠ []) (s : Span) :
    takeSpan table (i :: inlines) s = i :: takeSpan table inlines s := by
  cases s with
  | softBreak => exact keepBreak_cons .soft i h
  | hardBreak => exact keepBreak_cons .hard i h
  | _ => rfl

theorem takeSpan_kept (literal : String) (kind : LineBreak) (inlines : List Inline) (s : Span) :
    takeSpan table (.text literal (some kind) :: inlines) s =
      .text literal (some kind) :: takeSpan table inlines s := by
  cases inlines with
  | nil => cases s <;> rfl
  | cons i r => exact takeSpan_cons table _ (List.cons_ne_nil i r) s

theorem inlinesOf_singleton (s : Span) : inlinesOf table [s] = [inlineOf table s] := by
  cases s <;> rfl

theorem inlinesOf_pair (s t : Span) :
    inlinesOf table [s, t] = takeSpan table [inlineOf table s] t := by
  cases s with
  | text literal => cases t <;> rfl
  | link destination position children =>
    have hkeep (kind : LineBreak) :
        keepBreak kind [inlineOf table (.link destination position children)] =
          [inlineOf table (.link destination position children), .text "" (some kind)] := by
      rw [inlineOf]
      split <;> rfl
    cases t with
    | softBreak => exact (hkeep .soft).symm
    | hardBreak => exact (hkeep .hard).symm
    | _ => rfl
  | _ => cases t <;> rfl

theorem inlinesOf_cons_cons (s t : Span) :
    (∀ r, inlinesOf table (s :: t :: r) = inlineOf table s :: inlinesOf table (t :: r)) ∨
      ∃ literal kind, ∀ r,
        inlinesOf table (s :: t :: r) = .text literal (some kind) :: inlinesOf table r := by
  cases s with
  | text literal =>
    cases t with
    | softBreak => exact .inr ⟨literal, .soft, fun _ => rfl⟩
    | hardBreak => exact .inr ⟨literal, .hard, fun _ => rfl⟩
    | _ => exact .inl fun _ => rfl
  | _ => exact .inl fun _ => rfl

theorem inlinesOf_ne_nil (s : Span) (r : List Span) : inlinesOf table (s :: r) ≠ [] := by
  cases r with
  | nil =>
    rw [inlinesOf_singleton]
    exact List.cons_ne_nil _ _
  | cons t r =>
    rcases inlinesOf_cons_cons table s t with halone | ⟨literal, kind, hkept⟩
    · rw [halone]
      exact List.cons_ne_nil _ _
    · rw [hkept]
      exact List.cons_ne_nil _ _

theorem inlinesOf_concat (s : Span) :
    (spans : List Span) → inlinesOf table (spans ++ [s]) = takeSpan table (inlinesOf table spans) s
  | [] => by cases s <;> rfl
  | [t] => by rw [List.singleton_append, inlinesOf_pair, inlinesOf_singleton]
  | t :: u :: r => by
    -- two spans at a time, because a break goes into the text before it
    rcases inlinesOf_cons_cons table t u with halone | ⟨literal, kind, hkept⟩
    · have ih := inlinesOf_concat s (u :: r)
      rw [halone, takeSpan_cons table _ (inlinesOf_ne_nil table u r), ← ih]
      exact halone (r ++ [s])
    · have ih := inlinesOf_concat s r
      rw [hkept, takeSpan_kept, ← ih]
      exact hkept (r ++ [s])

theorem inlinesOf_eq_foldl (spans : List Span) :
    inlinesOf table spans = spans.foldl (takeSpan table) [] := by
  induction spans using List.reverseRecOn with
  | nil => rfl
  | append_singleton spans s ih =>
    rw [inlinesOf_concat, ih, List.foldl_append, List.foldl_cons, List.foldl_nil]

example : inlinesOf table [.emph [], .softBreak, .text "a", .softBreak, .hardBreak] =
    [.emphasis 1 [], .text "" (some .soft), .text "a" (some .soft), .text "" (some .hard)] := rfl

section
variable (marks : List Mark)

theorem atomsOf_walk_concat (inlines : List Inline) (i : Inline) :
    atomsOf (walk marks (inlines ++ [i])) =
      atomsOf (walk marks inlines) ++ atomsOf (i.leaves marks) := by
  rw [walk_append, atomsOf_append, atomsOf_walk_cons, walk, atomsOf_nil, List.append_nil]

theorem atomsOf_keepBreak (kind : LineBreak) (inlines : List Inline) :
    atomsOf (walk marks (keepBreak kind inlines)) =
      atomsOf (walk marks inlines) ++ atomsOf ((Inline.text "" (some kind)).leaves marks) := by
  unfold keepBreak
  split
  · rename_i literal hlast
    obtain ⟨before, rfl⟩ := List.getLast?_eq_some_iff.1 hlast
    -- the atom of the break stands behind those of its text on both sides
    simp only [List.dropLast_concat, atomsOf_walk_concat, atomsOf_text, Option.toList_none,
      Option.toList_some, List.map_nil, List.append_nil, List.append_assoc, String.toList_empty,
      charAtoms, List.nil_append]
  · exact atomsOf_walk_concat marks inlines _

theorem atomsOf_takeSpan (inlines : List Inline) (s : Span) :
    atomsOf (walk marks (takeSpan table inlines s)) =
      atomsOf (walk marks inlines) ++ atomsOf ((inlineOf table s).leaves marks) := by
  cases s with
  | softBreak => exact atomsOf_keepBreak marks .soft inlines
  | hardBreak => exact atomsOf_keepBreak marks .hard inlines
  | _ => exact atomsOf_walk_concat marks inlines _

theorem atomsOf_foldl_takeSpan (spans : List Span) (inlines : List Inline) :
    atomsOf (walk marks (spans.foldl (takeSpan table) inlines)) =
      atomsOf (walk marks inlines) ++
        spans.flatMap fun s => atomsOf ((inlineOf table s).leaves marks) := by
  induction spans generalizing inlines with
  | nil => rw [List.foldl_nil, List.flatMap_nil, List.append_nil]
  | cons s r ih =>
    rw [List.foldl_cons, ih, atomsOf_takeSpan, List.flatMap_cons, List.append_assoc]

theorem atomsOf_inlinesOf (spans : List Span) :
    atomsOf (walk marks (inlinesOf table spans)) =
      spans.flatMap fun s => atomsOf ((inlineOf table s).leaves marks) := by
  rw [inlinesOf_eq_foldl, atomsOf_foldl_takeSpan, walk, atomsOf_nil, List.nil_append]

end

theorem atomsOf_wrapper (w : Wrapper) (marks : List Mark) (children : List Span)
    (h : (children.flatMap fun s => atomsOf ((inlineOf table s).leaves (marks ++ w.marks))) =
      atomsOf (walk (marks ++ w.marks) (unfolded table children))) :
    atomsOf ((w.of (inlinesOf table children)).leaves marks) =
      atomsOf ((w.of (unfolded table children)).leaves marks) := by
  rw [atomsOf_leaves_of, atomsOf_leaves_of, atomsOf_inlinesOf, h]

mutual

theorem atomsOf_inlineOf (marks : List Mark) :
    (s : Span) → atomsOf ((inlineOf table s).leaves marks) =
      atomsOf ((unfoldedOf table s).leaves marks)
  | .text _ | .softBreak | .hardBreak | .code _ | .html _ | .image _ _ => rfl
  | .emph children => atomsOf_wrapper table (.emphasis 1) marks children (atomsOf_unfolded _ children)
  | .strong children =>
    atomsOf_wrapper table (.emphasis 2) marks children (atomsOf_unfolded _ children)
  | .strike children => atomsOf_wrapper table .strike marks children (atomsOf_unfolded _ children)
  | .other kind children =>
    atomsOf_wrapper table (.other kind) marks children (atomsOf_unfolded _ children)
  | .link destination position children => by
    rw [inlineOf, unfoldedOf]
    -- the label is the same text on both sides, so both are taken for the same kind of link
    split
    · rfl
    · exact atomsOf_wrapper table (.link destination) marks children (atomsOf_unfolded _ children)

theorem atomsOf_unfolded (marks : List Mark) :
    (spans : List Span) → (spans.flatMap fun s => atomsOf ((inlineOf table s).leaves marks)) =
      atomsOf (walk marks (unfolded table spans))
  | [] => rfl
  | s :: r => by
    rw [List.flatMap_cons, unfolded, atomsOf_walk_cons, atomsOf_inlineOf marks s,
      atomsOf_unfolded marks r]

end

theorem leaves_inlinesOf (marks : List Mark) (spans : List Span) :
    leaves marks (inlinesOf table spans) = leaves marks (unfolded table spans) := by
  rw [leaves_eq_atoms, leaves_eq_atoms, atomsOf_inlinesOf, atomsOf_unfolded]

/-- Reading spans from left to right, a break goes into the text before it if it can. The leaves
are those of the spans with every break by itself and in its own place. -/
theorem leaves_unfolded (marks : List Mark) (spans : List Span) :
    inlinesOf table spans = spans.foldl (takeSpan table) [] ∧
      leaves marks (inlinesOf table spans) = leaves marks (unfolded table spans) :=
  ⟨inlinesOf_eq_foldl table spans, leaves_inlinesOf table marks spans⟩

end

end MarkdownToAdf.Source
