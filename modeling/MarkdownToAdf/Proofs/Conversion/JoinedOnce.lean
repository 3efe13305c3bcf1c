import MarkdownToAdf.Conversion.Inline
import MarkdownToAdf.Proofs.Adf.Runs

set_option autoImplicit false

/-!
# Joining once

Each level of nesting joins its own runs, and then they are joined again around it. It would be
enough to join once at the outermost level.
-/
namespace MarkdownToAdf.Source
open Adf

mutual

/-- The leaves of an inline if wrappers join nothing. -/
def Inline.pieces (marks : List Mark) : Inline → List Node
  | .emphasis level children => pieces (marks ++ [emphasisMark level]) children
  | .link destination children => pieces (marks ++ [.link destination]) children
  | .strike children => pieces (marks ++ [.strike]) children
  | .other _ children => pieces marks children
  | i => i.leaves marks

def pieces (marks : List Mark) : List Inline → List Node
  | [] => []
  | i :: r => i.pieces marks ++ pieces marks r

end

mutual

theorem joinRuns_leaves_append (marks : List Mark) (r : List Node) :
    (i : Inline) → joinRuns (i.leaves marks ++ r) = joinRuns (i.pieces marks ++ r)
  | .emphasis level children => by
    rw [Inline.leaves, Inline.pieces, joinRuns_joinRuns_append, joinRuns_walk_append]
  | .link destination children => by
    rw [Inline.leaves, Inline.pieces, joinRuns_joinRuns_append, joinRuns_walk_append]
  | .strike children => by
    rw [Inline.leaves, Inline.pieces, joinRuns_joinRuns_append, joinRuns_walk_append]
  | .other _ children => by
    rw [Inline.leaves, Inline.pieces, joinRuns_joinRuns_append, joinRuns_walk_append]
  | .text _ _ | .code _ | .autolink _ _ _ | .image _ _ | .html _ => by simp only [Inline.pieces]

theorem joinRuns_walk_append (marks : List Mark) (r : List Node) :
    (inlines : List Inline) →
      joinRuns (walk marks inlines ++ r) = joinRuns (pieces marks inlines ++ r)
  | [] => by rw [walk, pieces]
  | i :: inlines => by
    -- the other inlines stand behind the first, and nothing is in front of it
    rw [walk, pieces, List.append_assoc, List.append_assoc, joinRuns_leaves_append, joinRuns_append,
      joinRuns_walk_append, ← joinRuns_append]

end

/-- Joining at every level gives what joining once at the end gives, so source can be converted
part by part. -/
theorem leaves_joinedOnce (marks : List Mark) (a b : List Inline) :
    leaves marks a = joinRuns (pieces marks a) ∧
      leaves marks (a ++ b) = joinRuns (leaves marks a ++ leaves marks b) := by
  constructor
  · have h := joinRuns_walk_append marks [] a
    rwa [List.append_nil, List.append_nil] at h
  · rw [leaves, leaves, leaves, joinRuns_joinRuns_append, joinRuns_append_joinRuns, walk_append]

end MarkdownToAdf.Source
