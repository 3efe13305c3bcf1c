set_option autoImplicit false

/-!
# Inline source

What a paragraph, a heading or a table cell is made of once Markdown has been read. A line
break has no node of its own: it belongs to the text that it ends.
-/
namespace MarkdownToAdf.Source

inductive LineBreak where
  | soft
  | hard
  deriving DecidableEq, Repr

inductive AddressKind where
  | url
  | email
  deriving DecidableEq, Repr

inductive Inline where
  | text (literal : String) (lineBreak : Option LineBreak)
  | emphasis (level : Nat) (children : List Inline)
  | code (literal : String)
  | link (destination : String) (children : List Inline)
  | autolink (url label : String) (kind : AddressKind)
  | image (destination alt : String)
  | strike (children : List Inline)
  | html (literal : String)
  | other (kind : String) (children : List Inline)
  deriving Repr, Inhabited

end MarkdownToAdf.Source
