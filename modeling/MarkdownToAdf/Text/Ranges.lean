set_option autoImplicit false

/-!
# Ranges of code points

A Unicode property is stored as the list of the ranges of code points that have it.
-/
namespace MarkdownToAdf.Text

abbrev Ranges := List (Nat × Nat)

/-- Both ends of a range belong to it. -/
def Ranges.has (ranges : Ranges) (n : Nat) : Bool :=
  ranges.any fun r => r.1 ≤ n && n ≤ r.2

end MarkdownToAdf.Text
