set_option autoImplicit false

/-!
# Options of the syntax

The parts of the syntax beyond CommonMark that a reader can be given. It has none of them by itself.
-/
namespace MarkdownToAdf.Markdown

structure Options where
  table : Bool := false
  strikethrough : Bool := false
  autolink : Bool := false
  deriving DecidableEq, Repr, Inhabited

end MarkdownToAdf.Markdown
