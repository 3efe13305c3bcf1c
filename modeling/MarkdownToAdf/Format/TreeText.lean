import MarkdownToAdf.Adf.Node
import MarkdownToAdf.Text.Quoted

set_option autoImplicit false

/-!
# Tree text

A document drawn as a tree, one node on each line. Lines and branches show where a node
belongs; an icon and a label show what it is.
-/
namespace MarkdownToAdf.Format
open Adf Text

def icon (kind : String) : String :=
  match kind with
  | "doc" => "⧉"
  | "paragraph" => "¶"
  | "heading" => "§"
  | "bulletList" => "☰"
  | "orderedList" => "⒈"
  | "listItem" => "•"
  | "codeBlock" => "𝒱"
  | "blockquote" => "❝"
  | "rule" => "⎯"
  | "table" => "▦"
  | "tableRow" => "═"
  | "tableHeader" => "◘"
  | "tableCell" => "▢"
  | "text" => "◦"
  | "hardBreak" => "↵"
  | "inlineCard" => "⊕"
  | _ => "○"

def shorten (s : String) : String :=
  if s.toList.length ≤ 30 then s else String.ofList (s.toList.take 29 ++ ['…'])

def marksLabel (marks : List Mark) : String :=
  if marks.isEmpty then "" else " [" ++ ", ".intercalate (marks.map Mark.kind) ++ "]"

def label (showMarks : Bool) : Node → String
  | .heading level _ => "heading h" ++ toString level
  | .codeBlock (some language) _ => "codeBlock (" ++ language ++ ")"
  | .inlineCard url => "inlineCard " ++ url
  | .text literal marks =>
    quote (shorten literal) ++ if showMarks then marksLabel marks else ""
  | n => n.kind

inductive Branch where
  | mk (label : String) (children : List Branch)
  deriving Repr, Inhabited

def twig (showMarks : Bool) (n : Node) (children : List Branch) : Branch :=
  .mk (icon n.kind ++ " " ++ label showMarks n) children

mutual

def branch (showMarks : Bool) : Node → Branch
  | .paragraph c => twig showMarks (.paragraph c) (branches showMarks c)
  | .heading l c => twig showMarks (.heading l c) (branches showMarks c)
  | .bulletList c => twig showMarks (.bulletList c) (branches showMarks c)
  | .orderedList c => twig showMarks (.orderedList c) (branches showMarks c)
  | .listItem c => twig showMarks (.listItem c) (branches showMarks c)
  | .codeBlock l c => twig showMarks (.codeBlock l c) (branches showMarks c)
  | .blockquote c => twig showMarks (.blockquote c) (branches showMarks c)
  | .rule => twig showMarks .rule []
  | .table n c => twig showMarks (.table n c) (branches showMarks c)
  | .tableRow c => twig showMarks (.tableRow c) (branches showMarks c)
  | .tableHeader c => twig showMarks (.tableHeader c) (branches showMarks c)
  | .tableCell c => twig showMarks (.tableCell c) (branches showMarks c)
  | .text s ms => twig showMarks (.text s ms) []
  | .hardBreak => twig showMarks .hardBreak []
  | .inlineCard u => twig showMarks (.inlineCard u) []

def branches (showMarks : Bool) : List Node → List Branch
  | [] => []
  | n :: r => branch showMarks n :: branches showMarks r

end

mutual

/-- The lines of a branch, behind what is drawn to its left. -/
def Branch.rows (left : String) (last : Bool) : Branch → List String
  | .mk label children =>
    (left ++ (if last then "└─ " else "├─ ") ++ label)
      :: rowsOf (left ++ if last then "  " else "│ ") children

def rowsOf (left : String) : List Branch → List String
  | [] => []
  | b :: r => b.rows left r.isEmpty ++ rowsOf left r

end

def titleRow (d : Document) : String :=
  icon "doc" ++ " doc (v" ++ toString d.version ++ ", " ++ toString d.content.length ++ " blocks)"

def treeRows (showMarks : Bool) (d : Document) : List String :=
  titleRow d :: rowsOf "" (branches showMarks d.content)

def treeText (showMarks : Bool) (d : Document) : String :=
  String.join ((treeRows showMarks d).map (· ++ "\n"))

end MarkdownToAdf.Format
