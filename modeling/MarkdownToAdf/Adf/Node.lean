import MarkdownToAdf.Adf.Mark

set_option autoImplicit false

/-!
# The document tree

A document is a version and a list of nodes. Nodes form a tree of fifteen kinds; `text`,
`hardBreak` and `inlineCard` are its leaves. The functions here look at one node or list
a tree from top to bottom.
-/
namespace MarkdownToAdf.Adf

inductive Node where
  | paragraph (content : List Node)
  | heading (level : Nat) (content : List Node)
  | bulletList (content : List Node)
  | orderedList (content : List Node)
  | listItem (content : List Node)
  | codeBlock (language : Option String) (content : List Node)
  | blockquote (content : List Node)
  | rule
  | table (numbered : Bool) (content : List Node)
  | tableRow (content : List Node)
  | tableHeader (content : List Node)
  | tableCell (content : List Node)
  | text (literal : String) (marks : List Mark)
  | hardBreak
  | inlineCard (url : String)
  deriving Repr, Inhabited

structure Document where
  version : Nat
  content : List Node
  deriving Repr, Inhabited

namespace Node

def kind : Node → String
  | paragraph _ => "paragraph"
  | heading _ _ => "heading"
  | bulletList _ => "bulletList"
  | orderedList _ => "orderedList"
  | listItem _ => "listItem"
  | codeBlock _ _ => "codeBlock"
  | blockquote _ => "blockquote"
  | rule => "rule"
  | table _ _ => "table"
  | tableRow _ => "tableRow"
  | tableHeader _ => "tableHeader"
  | tableCell _ => "tableCell"
  | text _ _ => "text"
  | hardBreak => "hardBreak"
  | inlineCard _ => "inlineCard"

def content : Node → List Node
  | paragraph c | heading _ c | bulletList c | orderedList c | listItem c | codeBlock _ c
  | blockquote c | table _ c | tableRow c | tableHeader c | tableCell c => c
  | rule | text _ _ | hardBreak | inlineCard _ => []

def text? : Node → Option String
  | text literal _ => some literal
  | _ => none

def marks : Node → List Mark
  | text _ ms => ms
  | _ => []

/-- A rule has no children either, but it is a block and no leaf. -/
def isLeaf : Node → Bool
  | text _ _ | hardBreak | inlineCard _ => true
  | _ => false

mutual

def same : Node → Node → Bool
  | paragraph c, paragraph d => sameAll c d
  | heading l c, heading k d => l == k && sameAll c d
  | bulletList c, bulletList d => sameAll c d
  | orderedList c, orderedList d => sameAll c d
  | listItem c, listItem d => sameAll c d
  | codeBlock l c, codeBlock k d => l == k && sameAll c d
  | blockquote c, blockquote d => sameAll c d
  | rule, rule => true
  | table n c, table m d => n == m && sameAll c d
  | tableRow c, tableRow d => sameAll c d
  | tableHeader c, tableHeader d => sameAll c d
  | tableCell c, tableCell d => sameAll c d
  | text s ms, text t ns => s == t && ms == ns
  | hardBreak, hardBreak => true
  | inlineCard u, inlineCard v => u == v
  | _, _ => false

def sameAll : List Node → List Node → Bool
  | [], [] => true
  | a :: as, b :: bs => same a b && sameAll as bs
  | _, _ => false

end

mutual

theorem same_iff : (a b : Node) → (same a b = true ↔ a = b)
  | paragraph c, b => by cases b <;> simp [same, sameAll_iff c]
  | heading l c, b => by cases b <;> simp [same, sameAll_iff c]
  | bulletList c, b => by cases b <;> simp [same, sameAll_iff c]
  | orderedList c, b => by cases b <;> simp [same, sameAll_iff c]
  | listItem c, b => by cases b <;> simp [same, sameAll_iff c]
  | codeBlock l c, b => by cases b <;> simp [same, sameAll_iff c]
  | blockquote c, b => by cases b <;> simp [same, sameAll_iff c]
  | rule, b => by cases b <;> simp [same]
  | table n c, b => by cases b <;> simp [same, sameAll_iff c]
  | tableRow c, b => by cases b <;> simp [same, sameAll_iff c]
  | tableHeader c, b => by cases b <;> simp [same, sameAll_iff c]
  | tableCell c, b => by cases b <;> simp [same, sameAll_iff c]
  | text s ms, b => by cases b <;> simp [same]
  | hardBreak, b => by cases b <;> simp [same]
  | inlineCard u, b => by cases b <;> simp [same]

theorem sameAll_iff : (as bs : List Node) → (sameAll as bs = true ↔ as = bs)
  | [], bs => by cases bs <;> simp [sameAll]
  | a :: as, bs => by
    cases bs with
    | nil => simp [sameAll]
    | cons b bs => simp [sameAll, same_iff a, sameAll_iff as]

end

instance : DecidableEq Node := fun a b => decidable_of_iff (same a b = true) (same_iff a b)

mutual

/-- A node and all its descendants, parents first and in order. -/
def preorder : Node → List Node
  | paragraph c => paragraph c :: preorderList c
  | heading l c => heading l c :: preorderList c
  | bulletList c => bulletList c :: preorderList c
  | orderedList c => orderedList c :: preorderList c
  | listItem c => listItem c :: preorderList c
  | codeBlock l c => codeBlock l c :: preorderList c
  | blockquote c => blockquote c :: preorderList c
  | rule => [rule]
  | table n c => table n c :: preorderList c
  | tableRow c => tableRow c :: preorderList c
  | tableHeader c => tableHeader c :: preorderList c
  | tableCell c => tableCell c :: preorderList c
  | text s ms => [text s ms]
  | hardBreak => [hardBreak]
  | inlineCard u => [inlineCard u]

def preorderList : List Node → List Node
  | [] => []
  | n :: r => n.preorder ++ preorderList r

end

theorem preorder_eq (n : Node) : n.preorder = n :: preorderList n.content := by
  cases n <;> simp [preorder, content, preorderList]

theorem preorderList_append (a b : List Node) :
    preorderList (a ++ b) = preorderList a ++ preorderList b := by
  induction a with
  | nil => simp [preorderList]
  | cons n a ih => simp [preorderList, ih]

end Node

deriving instance DecidableEq for Document

end MarkdownToAdf.Adf
