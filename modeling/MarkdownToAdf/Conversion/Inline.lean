import MarkdownToAdf.Adf.Runs
import MarkdownToAdf.Source.Inline

set_option autoImplicit false

/-!
# Inline source as document leaves

Formatting leaves no wrapper behind: it is carried down as a list of marks, and what comes out
is a flat list of texts, hard breaks and cards. Each level of nesting joins its own runs.
-/
namespace MarkdownToAdf.Source
open Adf

def textLeaf (literal : String) (marks : List Mark) : List Node :=
  if literal = "" then [] else [.text literal marks]

/-- A soft break is a space without formatting. -/
def LineBreak.leaf : LineBreak → Node
  | .soft => .text " " []
  | .hard => .hardBreak

/-- Level two is strong emphasis, every other level the plain one. -/
def emphasisMark (level : Nat) : Mark :=
  if level = 2 then .strong else .em

def orElse (first second : String) : String :=
  if first = "" then second else first

mutual

def Inline.leaves (marks : List Mark) : Inline → List Node
  | .text literal lineBreak => textLeaf literal marks ++ (lineBreak.map LineBreak.leaf).toList
  | .emphasis level children => joinRuns (walk (marks ++ [emphasisMark level]) children)
  | .code literal => textLeaf literal (marks ++ [.code])
  | .link destination children => joinRuns (walk (marks ++ [.link destination]) children)
  | .autolink url _ .url => [.inlineCard url]
  | .autolink url label .email => textLeaf (orElse label url) (marks ++ [.link url])
  | .image destination alt => textLeaf (orElse alt destination) (marks ++ [.link destination])
  | .strike children => joinRuns (walk (marks ++ [.strike]) children)
  | .html _ => []
  | .other _ children => joinRuns (walk marks children)

def walk (marks : List Mark) : List Inline → List Node
  | [] => []
  | i :: r => i.leaves marks ++ walk marks r

end

def leaves (marks : List Mark) (inlines : List Inline) : List Node :=
  joinRuns (walk marks inlines)

theorem walk_append (marks : List Mark) (a b : List Inline) :
    walk marks (a ++ b) = walk marks a ++ walk marks b := by
  induction a with
  | nil => simp [walk]
  | cons i a ih => simp [walk, ih]

end MarkdownToAdf.Source
