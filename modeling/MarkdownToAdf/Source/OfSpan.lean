import MarkdownToAdf.Markdown.Span
import MarkdownToAdf.Source.Inline
import MarkdownToAdf.Source.LineTable

set_option autoImplicit false

/-!
# Inline source from spans

Line breaks move into the text before them, images keep only their text, and links are told
from autolinks. An autolink shows its own address; a link that does so too is recognized by
the bracket that it is written with.
-/
namespace MarkdownToAdf.Source
open Markdown

mutual

/-- The text of a span: breaks are spaces and raw HTML is nothing. -/
def spanText : Span → String
  | .text literal => literal
  | .code literal => literal
  | .softBreak | .hardBreak => " "
  | .html _ => ""
  | .emph children | .strong children | .strike children => spansText children
  | .link _ _ children | .image _ children | .other _ children => spansText children

def spansText : List Span → String
  | [] => ""
  | s :: r => spanText s ++ spansText r

end

def showsAddress (label url : String) : Bool :=
  url == label || url == "mailto:" ++ label || url == "http://" ++ label

def openingBracket : UInt8 := 0x5B

def isAutolink (table : LineTable) (position : Option Position) (url label : String) : Bool :=
  showsAddress label url
    && (position.bind fun p => table.byteAt p.line p.column) != some openingBracket

def addressKind (url : String) : AddressKind :=
  if "mailto:".toList.isPrefixOf url.toList then .email else .url

mutual

def inlineOf (table : LineTable) : Span → Inline
  | .text literal => .text literal none
  | .softBreak => .text "" (some .soft)
  | .hardBreak => .text "" (some .hard)
  | .code literal => .code literal
  | .html literal => .html literal
  | .emph children => .emphasis 1 (inlinesOf table children)
  | .strong children => .emphasis 2 (inlinesOf table children)
  | .strike children => .strike (inlinesOf table children)
  | .image destination children => .image destination (spansText children)
  | .other kind children => .other kind (inlinesOf table children)
  | .link destination position children =>
    let label := spansText children
    if isAutolink table position destination label then
      .autolink destination label (addressKind destination)
    else .link destination (inlinesOf table children)

/-- A break goes to the text directly before it, or to an empty text if there is none. -/
def inlinesOf (table : LineTable) : List Span → List Inline
  | [] => []
  | .text literal :: .softBreak :: r => .text literal (some .soft) :: inlinesOf table r
  | .text literal :: .hardBreak :: r => .text literal (some .hard) :: inlinesOf table r
  | s :: r => inlineOf table s :: inlinesOf table r

end

end MarkdownToAdf.Source
