import MarkdownToAdf.Adf.Node

set_option autoImplicit false

/-!
# Runs of text

Text leaves that stand side by side under the same marks say together what one leaf can say.
`joinRuns` writes each such run as one leaf and leaves everything else as it is.
-/
namespace MarkdownToAdf.Adf

/-- Puts a node in front of a list, joining two texts with equal marks. -/
def joinFront : Node → List Node → List Node
  | .text s ms, .text t ns :: r =>
    if ms = ns then .text (s ++ t) ms :: r else .text s ms :: .text t ns :: r
  | n, r => n :: r

/-- Joins every maximal run of texts with equal marks; empty texts count as texts. -/
def joinRuns (nodes : List Node) : List Node :=
  nodes.foldr joinFront []

@[simp] theorem joinRuns_nil : joinRuns [] = [] := rfl

@[simp] theorem joinRuns_cons (n : Node) (r : List Node) :
    joinRuns (n :: r) = joinFront n (joinRuns r) := rfl

end MarkdownToAdf.Adf
