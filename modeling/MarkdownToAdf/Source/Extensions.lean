import MarkdownToAdf.Markdown.Options

set_option autoImplicit false

/-!
# Extensions

The extensions of Markdown that a text is read with. Each can be switched off, and each switches one
option of the syntax.
-/
namespace MarkdownToAdf.Source

structure Extensions where
  table : Bool := true
  strikethrough : Bool := true
  autolink : Bool := true
  deriving DecidableEq, Repr, Inhabited

def Extensions.options (e : Extensions) : Markdown.Options :=
  { table := e.table, strikethrough := e.strikethrough, autolink := e.autolink }

end MarkdownToAdf.Source
