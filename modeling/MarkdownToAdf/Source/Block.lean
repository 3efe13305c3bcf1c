import MarkdownToAdf.Source.Inline
import MarkdownToAdf.Text.Blank

set_option autoImplicit false

/-!
# Block source

The tree of blocks that Markdown is read into. Tables hold rows of cells of inline content;
a block of a kind without a constructor keeps the name of its kind.
-/
namespace MarkdownToAdf.Source

structure CodeBlock where
  fenced : Bool
  info : String
  literal : String
  deriving DecidableEq, Repr

inductive Block where
  | paragraph (content : List Inline)
  | heading (level : Nat) (content : List Inline)
  | list (ordered : Bool) (children : List Block)
  | item (children : List Block)
  | code (block : CodeBlock)
  | quote (children : List Block)
  | rule
  | table (rows : List (List (List Inline)))
  | other (kind : String) (children : List Block)
  deriving Repr, Inhabited

/-- The first word of the info string names the language of a fenced block. -/
def CodeBlock.language (b : CodeBlock) : Option String :=
  if b.fenced then (Text.words b.info.toList).head?.map String.ofList else none

/-- The text without one line terminator at its end. -/
def CodeBlock.body (b : CodeBlock) : String :=
  match b.literal.toList.reverse with
  | '\n' :: '\r' :: r => String.ofList r.reverse
  | '\n' :: r => String.ofList r.reverse
  | _ => b.literal

end MarkdownToAdf.Source
