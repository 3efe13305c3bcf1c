import MarkdownToAdf.Text.Ascii

set_option autoImplicit false

/-!
# A place in a line

While the markers of blocks are read off the front of a line, a cursor knows what is left of
the line, how many bytes have been read, and the column. Tabs reach to the next multiple of
four columns and may be read in part.
-/
namespace MarkdownToAdf.Markdown
open Text

structure Cursor where
  rest : List Char
  offset : Nat := 0
  column : Nat := 0
  /-- Is a tab, the first character of the rest, read in part? -/
  inTab : Bool := false
  deriving DecidableEq, Repr, Inhabited

def toTabStop (column : Nat) : Nat :=
  4 - column % 4

def blankWidth : Nat → List Char → Nat
  | column, ' ' :: r => 1 + blankWidth (column + 1) r
  | column, '\t' :: r => toTabStop column + blankWidth (column + toTabStop column) r
  | _, _ => 0

/-- Reads a number of columns; a tab that reaches further stays where it is. -/
def skipFrom : Nat → Nat → Nat → Bool → List Char → Cursor
  | 0, column, offset, inTab, r => ⟨r, offset, column, inTab⟩
  | _ + 1, column, offset, inTab, [] => ⟨[], offset, column, inTab⟩
  | n + 1, column, offset, _, c :: r =>
    if c = '\t' then
      if n + 1 < toTabStop column then ⟨c :: r, offset, column + (n + 1), true⟩
      else skipFrom (n + 1 - toTabStop column) (column + toTabStop column) (offset + 1) false r
    else skipFrom n (column + 1) (offset + c.utf8Size) false r

namespace Cursor

def text (c : Cursor) : List Char :=
  c.rest.dropWhile isSpaceOrTab

def indent (c : Cursor) : Nat :=
  blankWidth c.column c.rest

def isBlank (c : Cursor) : Bool :=
  c.text.isEmpty

def isIndented (c : Cursor) : Bool :=
  4 ≤ c.indent

def skipColumns (n : Nat) (c : Cursor) : Cursor :=
  skipFrom n c.column c.offset c.inTab c.rest

def skipBlanks (c : Cursor) : Cursor :=
  c.skipColumns c.indent

def skipChars (n : Nat) (c : Cursor) : Cursor :=
  ⟨c.rest.drop n, c.offset + byteLength (c.rest.take n), c.column + n, false⟩

def skipOneBlank (c : Cursor) : Cursor :=
  if c.rest.head?.any isSpaceOrTab then c.skipColumns 1 else c

/-- What is left of the line as content: the columns left of a tab become spaces. -/
def content (c : Cursor) : List Char :=
  if c.inTab then List.replicate (toTabStop c.column) ' ' ++ c.rest.drop 1 else c.rest

def contentOffset (c : Cursor) : Nat :=
  if c.inTab then c.offset + 1 else c.offset

end Cursor

/-- The cursor at the front of a line; a byte order mark before the first line is no text. -/
def Cursor.start (first : Bool) : List Char → Cursor
  | '\ufeff' :: r => if first then ⟨r, 3, 0, false⟩ else ⟨'\ufeff' :: r, 0, 0, false⟩
  | r => ⟨r, 0, 0, false⟩

end MarkdownToAdf.Markdown
