set_option autoImplicit false

/-!
# Spans

Inline content as the syntax gives it: line breaks stand between texts as spans of their own,
and a link remembers where in the source it was written.
-/
namespace MarkdownToAdf.Markdown

/-- A line of the source and a byte in it, both counted from one. -/
structure Position where
  line : Nat
  column : Nat
  deriving DecidableEq, Repr, Inhabited

inductive Span where
  | text (literal : String)
  | softBreak
  | hardBreak
  | code (literal : String)
  | html (literal : String)
  | emph (children : List Span)
  | strong (children : List Span)
  | strike (children : List Span)
  /-- A link that was made from plain text has no position. -/
  | link (destination : String) (position : Option Position) (children : List Span)
  | image (destination : String) (children : List Span)
  | other (kind : String) (children : List Span)
  deriving Repr, Inhabited

end MarkdownToAdf.Markdown
