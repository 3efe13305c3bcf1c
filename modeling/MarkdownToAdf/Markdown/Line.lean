set_option autoImplicit false

/-!
# Lines

A text is read line by line. A line ends with a line feed, a carriage return or both, and
U+0000 is replaced wherever it stands. What follows the last line end is a line only if there
is something.
-/
namespace MarkdownToAdf.Markdown

def replaceNull (c : Char) : Char :=
  if c = '\x00' then '\ufffd' else c

def extendFirst (c : Char) : List (List Char) → List (List Char)
  | [] => [[c]]
  | l :: ls => (c :: l) :: ls

/-- The lines of a text, without their line ends. -/
def splitLines : List Char → List (List Char)
  | [] => []
  | '\n' :: r => [] :: splitLines r
  | '\r' :: '\n' :: r => [] :: splitLines r
  | '\r' :: r => [] :: splitLines r
  | c :: r => extendFirst (replaceNull c) (splitLines r)

end MarkdownToAdf.Markdown
