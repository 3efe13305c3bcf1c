import MarkdownToAdf.Markdown.Html
import MarkdownToAdf.Markdown.Line
import MarkdownToAdf.Markdown.Link
import MarkdownToAdf.Markdown.Marker
import MarkdownToAdf.Markdown.Options
import MarkdownToAdf.Markdown.Outline
import MarkdownToAdf.Markdown.TableRow

set_option autoImplicit false

/-!
# Drafts

The outline of a document grows line by line. A draft holds the blocks that are complete, the
containers that are still open, and the one open block that takes lines. A line first goes down
through the open containers; what is left of it may begin new blocks, continue the open one, or
begin a paragraph.
-/
namespace MarkdownToAdf.Markdown
open Text

inductive Container where
  | quote
  | list (kind : ListKind)
  | item (width : Nat)
  deriving DecidableEq, Repr

structure Frame where
  container : Container
  done : List Outline := []
  deriving Repr

/-- A paragraph that may go on. Its lines, each with its line end, and their offsets are kept
latest first. -/
structure OpenParagraph where
  line : Nat
  offset : Nat
  lines : List (List Char) := []
  offsets : List Nat := []
  /-- Has a delimiter row been found that does not fit? Then no other one is tried. -/
  noTable : Bool := false
  deriving DecidableEq, Repr

structure OpenTable where
  columns : Nat
  offset : Nat
  rows : List (List Passage)
  added : Nat := 0
  deriving DecidableEq, Repr

/-- The open block that takes lines. Lines of code are kept latest first; the first line of a
fenced block is its info string. -/
inductive Leaf where
  | nothing
  | paragraph (p : OpenParagraph)
  | fenced (fence : Fence) (lines : List (List Char))
  | indented (lines : List (List Char))
  | html (kind : HtmlBlock)
  | table (t : OpenTable)
  deriving DecidableEq, Repr

/-- The outline so far. Blocks are kept latest first, open containers innermost first. -/
structure Draft where
  frames : List Frame := []
  done : List Outline := []
  leaf : Leaf := .nothing
  definitions : List Definition := []
  line : Nat := 0
  deriving Repr

def textOf (lines : List (List Char)) : List Char :=
  lines.reverse.flatten

def OpenParagraph.passage (p : OpenParagraph) (text : List Char) : Passage :=
  ⟨text, p.line, p.offsets.reverse⟩

def OpenParagraph.add (p : OpenParagraph) (content : List Char) (offset : Nat) : OpenParagraph :=
  { p with lines := (content ++ ['\n']) :: p.lines, offsets := offset :: p.offsets }

def isBlankText : List Char → Bool
  | [] => true
  | c :: r => if isSpaceOrTab c then isBlankText r else c == '\n'

def fencedBlock (lines : List (List Char)) : Source.CodeBlock :=
  match lines.reverse with
  | [] => ⟨true, "", ""⟩
  | info :: body =>
    ⟨true, String.ofList (unescape (trim (decodeReferences info))),
      String.ofList (body.flatMap (· ++ ['\n']))⟩

/-- Blank lines at the end of indented code do not count. -/
def indentedBlock (lines : List (List Char)) : Source.CodeBlock :=
  ⟨false, "", String.ofList ((lines.dropWhile (·.all isSpaceOrTab)).reverse.flatMap (· ++ ['\n']))⟩

def Frame.outline (f : Frame) : Outline :=
  match f.container with
  | .quote => .quote f.done.reverse
  | .list kind => .list kind.ordered f.done.reverse
  | .item _ => .item f.done.reverse

namespace Draft

def add (b : Outline) (d : Draft) : Draft :=
  match d.frames with
  | [] => { d with done := b :: d.done }
  | f :: fs => { d with frames := { f with done := b :: f.done } :: fs }

/-- Completes the open block. The definitions at the front of a paragraph are taken out of it,
and nothing stays of a paragraph that holds nothing else. -/
def closeLeaf (d : Draft) : Draft :=
  let e := { d with leaf := .nothing }
  match d.leaf with
  | .nothing => d
  | .paragraph p =>
    let (defs, text) := Markdown.definitions (textOf p.lines)
    let e := { e with definitions := e.definitions ++ defs }
    if isBlankText text then e else e.add (.paragraph (p.passage text))
  | .fenced _ lines => e.add (.code (fencedBlock lines))
  | .indented lines => e.add (.code (indentedBlock lines))
  | .html _ => e.add .html
  | .table t => e.add (.table t.rows.reverse)

def closeFrame (d : Draft) : Draft :=
  match d.frames with
  | [] => d
  | f :: fs => { d with frames := fs }.add f.outline

def close : Nat → Draft → Draft
  | 0, d => d.closeLeaf
  | n + 1, d => (close n d).closeFrame

def leaveList (d : Draft) : Draft :=
  match d.frames with
  | f :: _ => match f.container with
    | .list _ => d.closeFrame
    | _ => d
  | [] => d

def openFrame (c : Container) (d : Draft) : Draft :=
  { d with frames := ⟨c, []⟩ :: d.frames }

/-- Opens the list of an item, unless the item continues the open list. -/
def openList (kind : ListKind) (d : Draft) : Draft :=
  match d.frames with
  | f :: _ => if f.container = .list kind then d else d.leaveList.openFrame (.list kind)
  | [] => d.openFrame (.list kind)

def openParagraph (c : Cursor) (d : Draft) : Draft :=
  let c := c.skipBlanks
  let p : OpenParagraph := { line := d.line, offset := c.offset }
  { d.leaveList with leaf := .paragraph (p.add c.content c.contentOffset) }

end Draft

inductive Start where
  | quote (behind : Cursor)
  | item (kind : ListKind) (width : Nat) (behind : Cursor)
  | heading (level : Nat) (text : List Char) (offset : Nat)
  | fence (fence : Fence) (behind : Cursor)
  | html (kind : HtmlBlock) (text : List Char)
  | rule
  | code (behind : Cursor)
  deriving Repr

structure Place where
  /-- Is a paragraph open that the line continues? -/
  inParagraph : Bool := false
  /-- Is a paragraph open at all? -/
  afterParagraph : Bool := false
  depth : Nat := 0

def Cursor.behindQuote (c : Cursor) : Cursor :=
  (c.skipBlanks.skipChars 1).skipOneBlank

/-- The width of an item and the cursor at its content: one to four blanks behind the marker
belong to it; if there are more, or nothing follows, only one does. -/
def itemContent (indent : Nat) (m : ListMarker) (c : Cursor) : Nat × Cursor :=
  let behind := c.skipBlanks.skipChars m.length
  let blanks := min 6 behind.indent
  if 1 ≤ blanks ∧ blanks < 5 ∧ !behind.isBlank then
    (indent + m.length + blanks, behind.skipColumns blanks)
  else (indent + m.length + 1, behind.skipOneBlank)

def Start.ofMarker (place : Place) (c : Cursor) : Option Start :=
  if isRule c.text then some .rule
  else if 99 < place.depth + 1 then none
  else (listMarker? place.inParagraph c.text).map fun m =>
    let (width, behind) := itemContent c.indent m c
    .item m.kind width behind

def Start.ofText (place : Place) (c : Cursor) : Option Start :=
  let text := c.text
  if text.head? = some '>' then some (.quote c.behindQuote)
  else match headingLevel? text with
    | some level =>
      let behind := ((c.skipBlanks).skipChars level).skipBlanks
      some (.heading level (headingText behind.rest) behind.offset)
    | none => match openFence? (c.skipBlanks.offset - c.offset) text with
      | some f => some (.fence f (c.skipBlanks.skipChars f.length))
      | none => match htmlBlock? place.inParagraph text with
        | some kind => some (.html kind text)
        | none => ofMarker place c

def start? (place : Place) (c : Cursor) : Option Start :=
  if !c.isIndented then Start.ofText place c
  else if place.afterParagraph || c.isBlank then none
  else some (.code (c.skipColumns 4))

namespace Draft

/-- Begins one block; `inside` begins what a container leaves of the line. -/
def begins (inside : Cursor → Draft → Draft) (s : Start) (d : Draft) : Draft :=
  match s with
  | .quote behind => inside behind (d.leaveList.openFrame .quote)
  | .item kind width behind => inside behind ((d.openList kind).openFrame (.item width))
  | .heading level text offset => d.leaveList.add (.heading level ⟨text, d.line, [offset]⟩)
  | .fence f behind => { d.leaveList with leaf := .fenced f [behind.content] }
  | .html kind text =>
    let d := { d.leaveList with leaf := .html kind }
    if kind.endsWith text then d.closeLeaf else d
  | .rule => d.leaveList.add .rule
  | .code behind => { d.leaveList with leaf := .indented [behind.content] }

def beginBlocks : Nat → Nat → Cursor → Draft → Draft
  | 0, _, _, d => d
  | fuel + 1, depth, c, d =>
    match start? { depth := depth } c with
    | some s => begins (beginBlocks fuel (depth + 1)) s d
    | none => if c.isBlank then d else d.openParagraph c

end Draft

end MarkdownToAdf.Markdown
