import MarkdownToAdf.Text.Ascii

set_option autoImplicit false

/-!
# Rows of tables

A line is cut into cells at its pipes. A pipe with a backslash before it belongs to its cell
and loses the backslash there.
-/
namespace MarkdownToAdf.Markdown
open Text

structure Cell where
  text : List Char
  offset : Nat
  deriving DecidableEq, Repr, Inhabited

def isCellSpace (c : Char) : Bool :=
  c == ' ' || c == '\t' || c == '\x0b' || c == '\x0c'

def unescapePipes : List Char → List Char
  | '\\' :: '|' :: r => '|' :: unescapePipes r
  | c :: r => c :: unescapePipes r
  | [] => []

def cellOf (read : List Char) (offset : Nat) : Cell :=
  ⟨trim (unescapePipes read.reverse), offset⟩

/-- Cuts the rest of a line. `here` counts the bytes read; `behindPipe` tells that spaces are
being skipped. A line's last cell needs a pipe behind it only if it is empty. -/
def cellsFrom (here offset : Nat) (read : List Char) (behindPipe : Bool) : List Char → List Cell
  | [] => if read.isEmpty then [] else [cellOf read offset]
  | c :: r =>
    if behindPipe && isCellSpace c then cellsFrom (here + 1) (here + 1) [] true r
    else if c = '|' ∧ read.head? ≠ some '\\' then
      cellOf read offset :: cellsFrom (here + 1) (here + 1) [] true r
    else cellsFrom (here + c.utf8Size) offset (c :: read) false r

def cells : List Char → List Cell
  | '|' :: r => cellsFrom 1 1 [] true r
  | r => cellsFrom 0 0 [] false r

def isDelimiter (cell : List Char) : Bool :=
  let body := (cell.dropWhile isCellSpace).reverse.dropWhile isCellSpace
  let body := if body.head? = some ':' then body.drop 1 else body
  let body := body.reverse
  let body := if body.head? = some ':' then body.drop 1 else body
  !body.isEmpty && body.all (· == '-')

def splitAtPipes : List Char → List (List Char)
  | [] => [[]]
  | c :: r =>
    if c = '|' then [] :: splitAtPipes r
    else match splitAtPipes r with
      | [] => [[c]]
      | p :: ps => (c :: p) :: ps

/-- The line under the header of a table: a delimiter for every column. -/
def isDelimiterRow (line : List Char) : Bool :=
  let body := line.reverse.dropWhile isCellSpace
  let body := (if body.head? = some '|' then body.drop 1 else body).reverse
  let body := if body.head? = some '|' then body.drop 1 else body
  (splitAtPipes body).all isDelimiter

end MarkdownToAdf.Markdown
