import MarkdownToAdf.Conversion.Inline
import MarkdownToAdf.Source.Block

set_option autoImplicit false

/-!
# Block source as document nodes

A block becomes one node or none. A paragraph without leaves is left out; a block that the
document format cannot express is replaced by the first of its children that becomes a node.
-/
namespace MarkdownToAdf.Source
open Adf

def CodeBlock.node (b : CodeBlock) : Node :=
  .codeBlock b.language (textLeaf b.body [])

/-- Every cell holds exactly one paragraph, even when it is empty. -/
def cellNode (header : Bool) (cell : List Inline) : Node :=
  let content := [Node.paragraph (leaves [] cell)]
  if header then .tableHeader content else .tableCell content

def rowNode (header : Bool) (row : List (List Inline)) : Node :=
  .tableRow (row.map (cellNode header))

def tableNode : List (List (List Inline)) → Node
  | [] => .table false []
  | header :: rows => .table false (rowNode true header :: rows.map (rowNode false))

def paragraphNode? : List Node → Option Node
  | [] => none
  | content => some (.paragraph content)

def listNode (ordered : Bool) (items : List Node) : Node :=
  if ordered then .orderedList items else .bulletList items

mutual

def Block.node? : Block → Option Node
  | .paragraph content => paragraphNode? (leaves [] content)
  | .heading level content => some (.heading level (leaves [] content))
  | .list ordered children => some (listNode ordered (itemNodes children))
  | .item children => (nodes children).head?
  | .code block => some block.node
  | .quote children => some (.blockquote (nodes children))
  | .rule => some .rule
  | .table rows => some (tableNode rows)
  | .other _ children => (nodes children).head?

def nodes : List Block → List Node
  | [] => []
  | b :: r => b.node?.toList ++ nodes r

/-- What is no item has no place in a list. -/
def itemNodes : List Block → List Node
  | [] => []
  | .item children :: r => .listItem (nodes children) :: itemNodes r
  | _ :: r => itemNodes r

end

def document (blocks : List Block) : Document :=
  ⟨1, nodes blocks⟩

theorem nodes_eq_filterMap (blocks : List Block) : nodes blocks = blocks.filterMap Block.node? := by
  induction blocks with
  | nil => simp [nodes]
  | cons b r ih => cases h : b.node? <;> simp [nodes, h, ih]

end MarkdownToAdf.Source
