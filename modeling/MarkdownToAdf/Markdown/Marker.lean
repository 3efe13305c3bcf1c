import MarkdownToAdf.Markdown.Cursor

set_option autoImplicit false

/-!
# Block markers

What the first characters of a line say about the block that it begins. Every function here
is given a line from its first character that is neither space nor tab.
-/
namespace MarkdownToAdf.Markdown
open Text

def runLength (c : Char) (text : List Char) : Nat :=
  (text.takeWhile (· == c)).length

def headingLevel? (text : List Char) : Option Nat :=
  let level := runLength '#' text
  if 1 ≤ level ∧ level ≤ 6 ∧ (text.drop level).head?.all isSpaceOrTab then some level else none

/-- The text of a heading without white space at its end and without a closing sequence of
number signs, which has to be set off by a blank. -/
def headingText (text : List Char) : List Char :=
  let t := (trimEnd text).reverse
  let r := t.dropWhile (· == '#')
  if r.isEmpty then []
  else if t.head? = some '#' ∧ r.head?.any isSpaceOrTab then (r.dropWhile isAsciiSpace).reverse
  else t.reverse

def underlineLevel? (text : List Char) : Option Nat :=
  let line := (text.reverse.dropWhile isSpaceOrTab).reverse
  if line.isEmpty then none
  else if line.all (· == '=') then some 1
  else if line.all (· == '-') then some 2
  else none

def isRule (text : List Char) : Bool :=
  match text with
  | c :: _ =>
    (c == '*' || c == '_' || c == '-') && text.all (fun d => d == c || isSpaceOrTab d)
      && 3 ≤ text.count c
  | [] => false

structure Fence where
  mark : Char
  length : Nat
  indent : Nat
  deriving DecidableEq, Repr

/-- The fence that opens a block of code. No backtick may follow a fence of backticks. -/
def openFence? (indent : Nat) (text : List Char) : Option Fence :=
  match text with
  | c :: _ =>
    let n := runLength c text
    if 3 ≤ n ∧ (c = '~' ∨ (c = '\x60' ∧ !(text.drop n).contains '\x60')) then
      some ⟨c, n, indent⟩
    else none
  | [] => none

def Fence.closes (f : Fence) (text : List Char) : Bool :=
  let n := runLength f.mark text
  3 ≤ n && f.length ≤ n && (text.drop n).all isSpaceOrTab

/-- Items belong to one list when they are counted or marked in the same way. -/
structure ListKind where
  ordered : Bool
  mark : Char
  deriving DecidableEq, Repr

structure ListMarker where
  kind : ListKind
  length : Nat
  deriving DecidableEq, Repr

/-- What must follow a marker: white space, and text if a paragraph is interrupted. -/
def markerEnds (interrupting : Bool) (r : List Char) : Bool :=
  r.head?.all isAsciiSpace && !(interrupting && r.all isSpaceOrTab)

def numberOf (digits : List Char) : Nat :=
  digits.foldl (fun n d => 10 * n + (d.toNat - 48)) 0

/-- The list marker at the front of a line. A paragraph is only interrupted by an item with
text, which has number one if it is numbered. -/
def listMarker? (interrupting : Bool) (text : List Char) : Option ListMarker :=
  match text with
  | [] => none
  | c :: r =>
    if c = '*' ∨ c = '-' ∨ c = '+' then
      if markerEnds interrupting r then some ⟨⟨false, c⟩, 1⟩ else none
    else
      let digits := (text.takeWhile Char.isDigit).take 9
      let behind := text.drop digits.length
      match digits, behind with
      | _ :: _, d :: r =>
        if (d = '.' ∨ d = ')') ∧ !(interrupting && numberOf digits != 1)
            ∧ markerEnds interrupting r then
          some ⟨⟨true, d⟩, digits.length + 1⟩
        else none
      | _, _ => none

end MarkdownToAdf.Markdown
