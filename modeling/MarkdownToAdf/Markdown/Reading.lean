import MarkdownToAdf.Markdown.Draft

set_option autoImplicit false

/-!
# Reading lines into a draft

One line changes a draft in one of three ways. It belongs to the open code, HTML or table; it
begins blocks and thereby completes whatever it did not reach; or it continues a paragraph,
even one that it does not reach.
-/
namespace MarkdownToAdf.Markdown
open Text

/-- The cursor inside a container, if the line belongs to it. A blank line belongs to an item
that has something in it already. -/
def Container.enter? (hasChild : Bool) (c : Cursor) : Container → Option Cursor
  | .quote => if !c.isIndented && c.text.head? == some '>' then some c.behindQuote else none
  | .list _ => some c
  | .item width =>
    if width ≤ c.indent then some (c.skipColumns width)
    else if c.isBlank && hasChild then some c.skipBlanks
    else none

/-- How far a line goes down: the number of containers left behind, and the place reached. -/
structure Reach where
  left : Nat
  cursor : Cursor
  deriving DecidableEq, Repr

def reach : Bool → List Frame → Cursor → Reach
  | _, [], c => ⟨0, c⟩
  | hasInner, f :: outer, c =>
    let r := reach true outer c
    if r.left = 0 then
      match f.container.enter? (hasInner || !f.done.isEmpty) r.cursor with
      | some inside => ⟨0, inside⟩
      | none => ⟨1, r.cursor⟩
    else ⟨r.left + 1, r.cursor⟩

def Leaf.paragraph? : Leaf → Option OpenParagraph
  | .paragraph p => some p
  | _ => none

/-- A paragraph followed by a delimiter row that fits its last line becomes a table. Earlier
lines stay a paragraph, in which pipes lose their backslashes. -/
def OpenParagraph.table? (p : OpenParagraph) (columns : Nat) :
    Option (Option Passage × OpenTable) :=
  match p.lines with
  | [] => none
  | last :: earlier =>
    let header := cells last.dropLast
    if header.isEmpty ∨ header.length ≠ columns then none
    else
      let passage (cell : Cell) : Passage :=
        ⟨cell.text, p.line + earlier.length, [p.offset + cell.offset]⟩
      let preface :=
        if earlier.isEmpty then none
        else some (p.passage (trim (unescapePipes (textOf earlier))))
      some (preface, ⟨columns, p.offset, [header.map passage], 0⟩)

/-- A table stops taking rows when it had to be given more than half a million cells. -/
def OpenTable.isFull (t : OpenTable) : Bool :=
  500000 < t.added

def OpenTable.add (t : OpenTable) (line : Nat) (row : List Cell) : OpenTable :=
  let row := (row.take t.columns).map fun cell =>
    (⟨cell.text, line, [t.offset + cell.offset]⟩ : Passage)
  let missing := t.columns - row.length
  { t with rows := (row ++ List.replicate missing ⟨[], line, []⟩) :: t.rows
           added := t.added + missing }

namespace Draft

def beginAt (s : Start) (c : Cursor) (d : Draft) : Draft :=
  begins (beginBlocks (c.rest.length + 1) 1) s d

def interrupt (left : Nat) (c : Cursor) (d : Draft) : Draft :=
  match start? { afterParagraph := d.leaf.paragraph?.isSome } c with
  | some s => (d.close left).beginAt s c
  | none =>
    if c.isBlank then d.close left
    else match d.leaf.paragraph? with
      | some p => { d with leaf := .paragraph (p.add c.content c.contentOffset) }
      | none => (d.close left).openParagraph c

def continueParagraph (p : OpenParagraph) (c : Cursor) (d : Draft) : Draft :=
  let c := c.skipBlanks
  { d with leaf := .paragraph (p.add c.content c.contentOffset) }

/-- A line under a paragraph that makes it a heading, unless the paragraph holds nothing but
definitions: then the line is its first text. -/
def underline (level : Nat) (p : OpenParagraph) (c : Cursor) (d : Draft) : Draft :=
  let (defs, text) := Markdown.definitions (textOf p.lines)
  let d := { d with definitions := d.definitions ++ defs }
  if isBlankText text then d.continueParagraph { p with lines := [] } c
  else { d with leaf := .nothing }.add (.heading level (p.passage text))

def tableOrText (p : OpenParagraph) (c : Cursor) (d : Draft) : Draft :=
  if p.noTable || c.isIndented || !isDelimiterRow c.text then d.continueParagraph p c
  else match p.table? (cells c.text).length with
    | none => d.continueParagraph { p with noTable := true } c
    | some (preface, t) =>
      let d := { d with leaf := .nothing }
      let d := match preface with
        | some passage => d.add (.paragraph passage)
        | none => d
      { d with leaf := .table t }

def readParagraph (e : Options) (p : OpenParagraph) (c : Cursor) (d : Draft) : Draft :=
  match if c.isIndented then none else underlineLevel? c.text with
  | some level => d.underline level p c
  | none => match start? { inParagraph := true, afterParagraph := true } c with
    | some s => (d.close 0).beginAt s c
    | none => if e.table then d.tableOrText p c else d.continueParagraph p c

def readRow (t : OpenTable) (row : List Cell) (c : Cursor) (d : Draft) : Draft :=
  match start? {} c with
  | some s => (d.close 0).beginAt s c
  | none =>
    if c.isIndented || t.isFull then (d.close 0).openParagraph c
    else { d with leaf := .table (t.add d.line row) }

def readInside (e : Options) (c : Cursor) (d : Draft) : Draft :=
  match d.leaf with
  | .nothing => d.interrupt 0 c
  | .paragraph p => if c.isBlank then d.interrupt 0 c else d.readParagraph e p c
  | .fenced f lines =>
    if !c.isIndented && f.closes c.text then d.closeLeaf
    else { d with leaf := .fenced f ((c.skipColumns (min f.indent c.indent)).content :: lines) }
  | .indented lines =>
    if c.isIndented then { d with leaf := .indented ((c.skipColumns 4).content :: lines) }
    else if c.isBlank then { d with leaf := .indented (c.skipBlanks.content :: lines) }
    else d.interrupt 0 c
  | .html kind =>
    if c.isBlank && kind.endsAtBlank then d.interrupt 0 c
    else if kind.endsWith c.text then d.closeLeaf
    else d
  | .table t =>
    let row := cells c.text
    if row.isEmpty then d.interrupt 0 c else d.readRow t row c

def read (e : Options) (d : Draft) (line : List Char) : Draft :=
  let r := reach (d.leaf != .nothing) d.frames (Cursor.start (d.line == 0) line)
  let d := { d with line := d.line + 1 }
  if r.left = 0 then d.readInside e r.cursor else d.interrupt r.left r.cursor

def finish (d : Draft) : Draft :=
  d.close d.frames.length

end Draft

def Draft.ofText (e : Options) (text : List Char) : Draft :=
  ((splitLines text).foldl (Draft.read e) {}).finish

end MarkdownToAdf.Markdown
