import MarkdownToAdf.Markdown.Phrasing
import MarkdownToAdf.Markdown.Reading
import MarkdownToAdf.Source.Extensions
import MarkdownToAdf.Source.OfSpan

set_option autoImplicit false

/-!
# Source trees from Markdown

The outline of a text becomes a source tree when its passages are read in order. Expanding
references takes from a common room, which is at least a hundred thousand bytes.
-/
namespace MarkdownToAdf.Source
open Markdown

structure Reader where
  options : Options
  definitions : List Definition
  table : LineTable

def Reader.passage (k : Reader) (room : Nat) (p : Passage) : List Inline × Nat :=
  let (spans, room) := readPassage k.options k.definitions room p
  (inlinesOf k.table spans, room)

def Reader.passages (k : Reader) : Nat → List Passage → List (List Inline) × Nat
  | room, [] => ([], room)
  | room, p :: r =>
    let (content, room) := k.passage room p
    let (contents, room) := k.passages room r
    (content :: contents, room)

def Reader.rows (k : Reader) : Nat → List (List Passage) → List (List (List Inline)) × Nat
  | room, [] => ([], room)
  | room, p :: r =>
    let (row, room) := k.passages room p
    let (rows, room) := k.rows room r
    (row :: rows, room)

mutual

def Reader.block (k : Reader) (room : Nat) : Outline → Block × Nat
  | .paragraph p =>
    let (content, room) := k.passage room p
    (.paragraph content, room)
  | .heading level p =>
    let (content, room) := k.passage room p
    (.heading level content, room)
  | .list ordered items =>
    let (children, room) := k.blocks room items
    (.list ordered children, room)
  | .item children =>
    let (children, room) := k.blocks room children
    (.item children, room)
  | .quote children =>
    let (children, room) := k.blocks room children
    (.quote children, room)
  | .code block => (.code block, room)
  | .rule => (.rule, room)
  | .html => (.other "html_block" [], room)
  | .table rows =>
    let (rows, room) := k.rows room rows
    (.table rows, room)

def Reader.blocks (k : Reader) (room : Nat) : List Outline → List Block × Nat
  | [] => ([], room)
  | b :: r =>
    let (block, room) := k.block room b
    let (blocks, room) := k.blocks room r
    (block :: blocks, room)

end

def ofMarkdown (e : Extensions) (text : String) : List Block :=
  let chars := text.toList
  let draft := Draft.ofText e.options chars
  let table := LineTable.ofText chars
  let room := max 100000 table.bytes.length
  ((⟨e.options, draft.definitions, table⟩ : Reader).blocks room draft.done.reverse).1

end MarkdownToAdf.Source
