import MarkdownToAdf.Source.Block

set_option autoImplicit false

/-!
# The outline of a document

The blocks of a document before their text has been read: every paragraph, heading and table
cell holds a passage, which remembers where its lines come from.
-/
namespace MarkdownToAdf.Markdown

structure Passage where
  text : List Char
  /-- The number of the source line on which the passage begins, counted from one. -/
  line : Nat
  /-- The bytes taken off the front of each of its source lines. -/
  offsets : List Nat
  deriving DecidableEq, Repr, Inhabited

inductive Outline where
  | paragraph (passage : Passage)
  | heading (level : Nat) (passage : Passage)
  | list (ordered : Bool) (items : List Outline)
  | item (children : List Outline)
  | quote (children : List Outline)
  | code (block : Source.CodeBlock)
  | rule
  | html
  | table (rows : List (List Passage))
  deriving Repr, Inhabited

end MarkdownToAdf.Markdown
