import MarkdownToAdf.Format.TreeText
import MarkdownToAdf.Proofs.Text.Quoted

set_option autoImplicit false

/-!
# The rows of a tree text

Every node has one row. What is drawn to the left of a node tells, for each of its ancestors
and for the node, whether it is the last of its siblings. Of what a row says about the node
only the language of a code block and the address of a card stand there without quotes, so
only they can bring line feeds into it.
-/
namespace MarkdownToAdf.Adf.Node

@[simp] def level? : Node → Option Nat
  | heading level _ => some level
  | _ => none

@[simp] def language? : Node → Option String
  | codeBlock language _ => language
  | _ => none

@[simp] def url? : Node → Option String
  | inlineCard url => some url
  | _ => none

end MarkdownToAdf.Adf.Node

namespace MarkdownToAdf.Format
open Adf Text

theorem sizeOf_content_le (n : Node) : sizeOf n.content ≤ sizeOf n := by
  cases n <;> simp +arith [Node.content]

def nodeKinds : List String :=
  ["paragraph", "heading", "bulletList", "orderedList", "listItem", "codeBlock", "blockquote",
    "rule", "table", "tableRow", "tableHeader", "tableCell", "text", "hardBreak", "inlineCard"]

theorem kind_mem_nodeKinds (n : Node) : n.kind ∈ nodeKinds := by
  cases n <;> simp [Node.kind, nodeKinds]

def markKinds : List String :=
  ["strong", "em", "code", "strike", "link"]

theorem kind_mem_markKinds (m : Mark) : m.kind ∈ markKinds := by
  cases m <;> simp [Mark.kind, markKinds]

/-- A node where it is drawn: `above` tells for each of its ancestors, outermost first,
whether it is the last of its siblings, and `last` tells so for the node. -/
structure Site where
  above : List Bool
  last : Bool
  node : Node

def sitesIn (above : List Bool) : List Node → List Site
  | [] => []
  | n :: r =>
    ⟨above, r.isEmpty, n⟩ :: sitesIn (above ++ [r.isEmpty]) n.content ++ sitesIn above r
  termination_by nodes => sizeOf nodes
  decreasing_by
    · have := sizeOf_content_le n
      simp only [List.cons.sizeOf_spec]
      omega
    · simp only [List.cons.sizeOf_spec]
      omega

theorem map_node_sitesIn (above : List Bool) (nodes : List Node) :
    (sitesIn above nodes).map Site.node = Node.preorderList nodes := by
  induction above, nodes using sitesIn.induct with
  | case1 => simp [sitesIn, Node.preorderList]
  | case2 above n r ihContent ihRest =>
    rw [sitesIn, Node.preorderList, Node.preorder_eq, List.map_append, List.map_cons, ihContent,
      ihRest]

/-- What is drawn below the ancestors of a node: a line for those that have more siblings. -/
def leftOf (above : List Bool) : String :=
  String.join (above.map fun last => if last then "  " else "│ ")

def connector (last : Bool) : String :=
  if last then "└─ " else "├─ "

def legend (showMarks : Bool) (n : Node) : String :=
  icon n.kind ++ " " ++ label showMarks n

def Site.row (showMarks : Bool) (p : Site) : String :=
  leftOf p.above ++ connector p.last ++ legend showMarks p.node

theorem leftOf_cons (last : Bool) (above : List Bool) :
    leftOf (last :: above) = (if last then "  " else "│ ") ++ leftOf above := by
  rw [leftOf, List.map_cons, String.join_cons]
  rfl

theorem leftOf_concat (above : List Bool) (last : Bool) :
    leftOf (above ++ [last]) = leftOf above ++ if last then "  " else "│ " := by
  simp [leftOf, String.join_append, String.join_cons]

theorem branch_eq (showMarks : Bool) (n : Node) :
    branch showMarks n = .mk (legend showMarks n) (branches showMarks n.content) := by
  cases n <;> rfl

theorem rowsOf_branches (showMarks : Bool) (above : List Bool) (nodes : List Node) :
    rowsOf (leftOf above) (branches showMarks nodes)
      = (sitesIn above nodes).map (Site.row showMarks) := by
  induction above, nodes using sitesIn.induct with
  | case1 => simp [sitesIn, branches, rowsOf]
  | case2 above n r ihContent ihRest =>
    have hempty : (branches showMarks r).isEmpty = r.isEmpty := by
      cases r <;> rfl
    rw [sitesIn, branches, rowsOf, branch_eq, Branch.rows, hempty, ← leftOf_concat, ihContent,
      ihRest, List.map_append, List.map_cons]
    rfl

theorem treeRows_eq (showMarks : Bool) (d : Document) :
    treeRows showMarks d = titleRow d :: (sitesIn [] d.content).map (Site.row showMarks) := by
  rw [← rowsOf_branches]
  rfl

def feeds (s : String) : Nat :=
  s.toList.count '\n'

@[simp] theorem feeds_append (s t : String) : feeds (s ++ t) = feeds s + feeds t := by
  simp [feeds]

theorem feeds_eq_zero {s : String} : feeds s = 0 ↔ '\n' ∉ s.toList :=
  List.count_eq_zero

theorem feeds_join_cons (s : String) (l : List String) :
    feeds (String.join (s :: l)) = feeds s + feeds (String.join l) := by
  rw [String.join_cons, feeds_append]

theorem feeds_join_eq_zero {l : List String} :
    feeds (String.join l) = 0 ↔ ∀ s ∈ l, feeds s = 0 := by
  induction l with
  | nil => simp [feeds]
  | cons s l ih => rw [feeds_join_cons, Nat.add_eq_zero_iff, ih, List.forall_mem_cons]

theorem feeds_join_map {α : Type} {f g : α → String} {l : List α}
    (h : ∀ x ∈ l, feeds (f x) = feeds (g x)) :
    feeds (String.join (l.map f)) = feeds (String.join (l.map g)) := by
  induction l with
  | nil => rfl
  | cons x l ih =>
    obtain ⟨hx, hl⟩ := List.forall_mem_cons.1 h
    rw [List.map_cons, List.map_cons, feeds_join_cons, feeds_join_cons, hx, ih hl]

theorem feeds_quote (s : String) : feeds (quote s) = 0 :=
  feeds_eq_zero.2 (feed_not_mem_quote s)

theorem feeds_repr (n : Nat) : feeds n.repr = 0 := by
  rw [feeds_eq_zero, Nat.repr, String.toList_ofList]
  intro h
  exact absurd (Nat.isDigit_of_mem_toDigits (by decide) (by decide) h) (by decide)

theorem feeds_connector (last : Bool) : feeds (connector last) = 0 := by
  cases last <;> decide

theorem feeds_leftOf (above : List Bool) : feeds (leftOf above) = 0 := by
  induction above with
  | nil => decide
  | cons last above ih =>
    rw [leftOf_cons, feeds_append, ih]
    cases last <;> decide

theorem feeds_kind (n : Node) : feeds n.kind = 0 :=
  (by decide : ∀ k ∈ nodeKinds, feeds k = 0) _ (kind_mem_nodeKinds n)

theorem feeds_icon (n : Node) : feeds (icon n.kind) = 0 :=
  (by decide : ∀ k ∈ nodeKinds, feeds (icon k) = 0) _ (kind_mem_nodeKinds n)

theorem feeds_markKind (m : Mark) : feeds m.kind = 0 :=
  (by decide : ∀ k ∈ markKinds, feeds k = 0) _ (kind_mem_markKinds m)

theorem feeds_intercalate {separator : String} (hseparator : feeds separator = 0) {l : List String}
    (h : ∀ s ∈ l, feeds s = 0) : feeds (separator.intercalate l) = 0 := by
  induction l with
  | nil => rfl
  | cons s l ih =>
    obtain ⟨hs, hl⟩ := List.forall_mem_cons.1 h
    cases l with
    | nil => simpa using hs
    | cons t l => simp [String.intercalate_cons_cons, hs, hseparator, ih hl]

theorem feeds_marksLabel (marks : List Mark) : feeds (marksLabel marks) = 0 := by
  unfold marksLabel
  split
  · decide
  · have hnames : ∀ s ∈ marks.map Mark.kind, feeds s = 0 :=
      List.forall_mem_map.2 fun m _ => feeds_markKind m
    rw [feeds_append, feeds_append, feeds_intercalate (by decide) hnames]
    decide

def bare : Node → String
  | .codeBlock (some language) _ => language
  | .inlineCard url => url
  | _ => ""

theorem feeds_label (showMarks : Bool) (n : Node) :
    feeds (label showMarks n) = feeds (bare n) := by
  have hempty : feeds "" = 0 := by decide
  cases n with
  | heading level c =>
    have hname : feeds "heading h" = 0 := by decide
    simp [label, bare, hname, feeds_repr, hempty]
  | codeBlock language c =>
    cases language with
    | none => exact feeds_kind (.codeBlock none c)
    | some language =>
      have hopen : feeds "codeBlock (" = 0 := by decide
      have hclose : feeds ")" = 0 := by decide
      simp [label, bare, hopen, hclose]
  | inlineCard url =>
    have hname : feeds "inlineCard " = 0 := by decide
    simp [label, bare, hname]
  | text literal marks =>
    cases showMarks <;> simp [label, bare, feeds_quote, feeds_marksLabel, hempty]
  | _ => simp [label, bare, feeds_kind, hempty]

theorem Site.feeds_row (showMarks : Bool) (p : Site) :
    feeds (p.row showMarks) = feeds (bare p.node) := by
  have hspace : feeds " " = 0 := by decide
  simp only [Site.row, legend, feeds_append, feeds_leftOf, feeds_connector, feeds_icon,
    feeds_label, hspace, Nat.zero_add]

theorem feeds_titleRow (d : Document) : feeds (titleRow d) = 0 := by
  simp only [titleRow, feeds_append, Nat.toString_eq_repr, feeds_repr]
  decide

theorem feeds_lines (rows : List String) :
    feeds (String.join (rows.map (· ++ "\n"))) = rows.length + feeds (String.join rows) := by
  have hend : feeds "\n" = 1 := by decide
  induction rows with
  | nil => rfl
  | cons row rows ih =>
    rw [List.map_cons, feeds_join_cons, feeds_append, ih, hend, feeds_join_cons, List.length_cons]
    omega

/-- The line feeds of a tree text are those at the ends of its rows and those of the
languages and addresses in it. -/
theorem feeds_treeText (showMarks : Bool) (d : Document) :
    feeds (treeText showMarks d) = 1 + (Node.preorderList d.content).length
      + feeds (String.join ((Node.preorderList d.content).map bare)) := by
  have hrows : feeds (String.join ((sitesIn [] d.content).map (Site.row showMarks))) =
      feeds (String.join ((sitesIn [] d.content).map fun p => bare p.node)) :=
    feeds_join_map fun p _ => p.feeds_row showMarks
  rw [treeText, treeRows_eq, feeds_lines, feeds_join_cons, feeds_titleRow, hrows,
    ← map_node_sitesIn [], List.map_map, List.length_cons, List.length_map, List.length_map,
    Nat.zero_add, Nat.add_comm 1]
  rfl

/-- Has the tree text one line for the document and one for each of its nodes? -/
def OneLineEach (showMarks : Bool) (d : Document) : Prop :=
  feeds (treeText showMarks d) = 1 + (Node.preorderList d.content).length

instance (showMarks : Bool) (d : Document) : Decidable (OneLineEach showMarks d) :=
  inferInstanceAs (Decidable (_ = _))

theorem oneLineEach_iff (showMarks : Bool) (d : Document) :
    OneLineEach showMarks d ↔ ∀ n ∈ Node.preorderList d.content, feeds (bare n) = 0 := by
  rw [OneLineEach, feeds_treeText, Nat.add_eq_left, feeds_join_eq_zero, List.forall_mem_map]

end MarkdownToAdf.Format
