import MarkdownToAdf.Config.Loader
import MarkdownToAdf.Proofs.Config.Extensions
import MarkdownToAdf.Proofs.Markdown.AllowedOutlines
import MarkdownToAdf.Proofs.Markdown.ScannedSpans
import MarkdownToAdf.Proofs.Source.LineBreaks
import MarkdownToAdf.Proofs.Source.Passages

set_option autoImplicit false

/-!
# Documents and extensions

An extension that is switched off leaves no trace in any document: without tables there is no
node of a table at any depth, and without struck text there is no mark for it on any leaf. This
holds for extensions given as they are and for those that a configuration switches off.
-/
namespace MarkdownToAdf

namespace Adf

/-- Does a node belong to a table: the table, a row or a cell? -/
def Node.isTablePart : Node → Bool
  | table _ _ | tableRow _ | tableHeader _ | tableCell _ => true
  | _ => false

structure Node.Allowed (e : Source.Extensions) (n : Node) : Prop where
  table : n.isTablePart = true → e.table = true
  strike : .strike ∈ n.marks → e.strikethrough = true

def Node.AllowedBelow (e : Source.Extensions) (n : Node) : Prop :=
  ∀ m ∈ n.preorder, m.Allowed e

section
variable {e : Source.Extensions}

theorem Node.allowedBelow_of (n : Node) (hn : n.Allowed e)
    (hcontent : ∀ m ∈ n.content, m.AllowedBelow e) : n.AllowedBelow e := by
  intro m hm
  rw [preorder_eq] at hm
  rcases List.mem_cons.1 hm with rfl | hbelow
  · exact hn
  · obtain ⟨k, hk, hmk⟩ := (mem_preorderList m _).1 hbelow
    exact hcontent k hk m hmk

theorem Node.allowed_of_plain {n : Node} (hpart : n.isTablePart = false) (hmarks : n.marks = []) :
    n.Allowed e := by
  constructor
  · rw [hpart]
    exact nofun
  · rw [hmarks]
    exact nofun

theorem Node.allowed_of_table (n : Node) (htable : e.table = true) (hmarks : n.marks = []) :
    n.Allowed e := by
  refine ⟨fun _ => htable, ?_⟩
  rw [hmarks]
  exact nofun

theorem Node.allowed_text {marks : List Mark} (h : .strike ∈ marks → e.strikethrough = true)
    (literal : String) : (Node.text literal marks).Allowed e :=
  ⟨nofun, h⟩

end

/-- There is no table, row or cell at any depth. -/
def Document.HasNoTable (d : Document) : Prop :=
  ∀ n ∈ Node.preorderList d.content, n.isTablePart = false

def Document.HasNoStrike (d : Document) : Prop :=
  ∀ n ∈ Node.preorderList d.content, .strike ∉ n.marks

end Adf

namespace Source
open Adf Config Markdown

section
variable {e : Extensions} {marks : List Mark}

theorem strike_mem_concat (h : .strike ∈ marks → e.strikethrough = true) {m : Mark}
    (hm : m ≠ .strike) : .strike ∈ marks ++ [m] → e.strikethrough = true := by
  intro hmem
  rcases List.mem_append.1 hmem with hmarks | hlast
  · exact h hmarks
  · exact absurd (List.mem_singleton.1 hlast).symm hm

theorem link_ne_strike (destination : String) : Mark.link destination ≠ .strike :=
  nofun

theorem allowed_textLeaf (h : .strike ∈ marks → e.strikethrough = true) (literal : String) :
    ∀ n ∈ textLeaf literal marks, n.Allowed e := by
  unfold textLeaf
  split
  · exact List.forall_mem_nil _
  · exact List.forall_mem_singleton.2 (Node.allowed_text h literal)

theorem allowed_joinRuns (nodes : List Node) (h : ∀ n ∈ nodes, n.Allowed e) :
    ∀ n ∈ joinRuns nodes, n.Allowed e :=
  forall_joinRuns (fun _ _ _ hs _ => ⟨nofun, hs.strike⟩) nodes h

variable (table : LineTable)

mutual

theorem allowed_unfoldedOf (marks : List Mark) (h : .strike ∈ marks → e.strikethrough = true) :
    (s : Span) → s.All (Span.Allowed e.options) → ∀ n ∈ (unfoldedOf table s).leaves marks, n.Allowed e
  | .text literal, _ => by
    rw [unfoldedOf, Inline.leaves]
    exact List.forall_mem_append.2 ⟨allowed_textLeaf h literal, List.forall_mem_nil _⟩
  | .softBreak, _ => List.forall_mem_singleton.2 (Node.allowed_of_plain rfl rfl)
  | .hardBreak, _ => List.forall_mem_singleton.2 (Node.allowed_of_plain rfl rfl)
  | .code literal, _ => allowed_textLeaf (strike_mem_concat h (by decide)) literal
  | .html _, _ => List.forall_mem_nil _
  | .emph children, hs => by
    have hem : emphasisMark 1 ≠ .strike := by decide
    exact allowed_joinRuns _ (allowed_unfolded _ (strike_mem_concat h hem) children hs.2)
  | .strong children, hs => by
    have hstrong : emphasisMark 2 ≠ .strike := by decide
    exact allowed_joinRuns _ (allowed_unfolded _ (strike_mem_concat h hstrong) children hs.2)
  | .strike children, hs => allowed_joinRuns _ (allowed_unfolded _ (fun _ => hs.1) children hs.2)
  | .image destination children, _ => by
    rw [unfoldedOf, Inline.leaves]
    exact allowed_textLeaf (strike_mem_concat h (link_ne_strike destination)) _
  | .other _ children, hs => allowed_joinRuns _ (allowed_unfolded _ h children hs.2)
  | .link destination position children, hs => by
    have hmarks := strike_mem_concat h (link_ne_strike destination)
    rw [unfoldedOf]
    split
    · cases addressKind destination with
      | url => exact List.forall_mem_singleton.2 (Node.allowed_of_plain rfl rfl)
      | email =>
        rw [Inline.leaves]
        exact allowed_textLeaf hmarks _
    · exact allowed_joinRuns _ (allowed_unfolded _ hmarks children hs.2)

theorem allowed_unfolded (marks : List Mark) (h : .strike ∈ marks → e.strikethrough = true) :
    (spans : List Span) → AllIn (Span.Allowed e.options) spans →
      ∀ n ∈ walk marks (unfolded table spans), n.Allowed e
  | [], _ => List.forall_mem_nil _
  | s :: r, hspans => by
    rw [unfolded, walk]
    exact List.forall_mem_append.2
      ⟨allowed_unfoldedOf marks h s hspans.1, allowed_unfolded marks h r hspans.2⟩

end

theorem allowed_leaves (spans : List Span) (h : AllIn (Span.Allowed e.options) spans) :
    ∀ n ∈ leaves [] (inlinesOf table spans), n.Allowed e := by
  rw [leaves_inlinesOf]
  exact allowed_joinRuns _ (allowed_unfolded table [] nofun spans h)

end

mutual

def Block.hasTable : Block → Bool
  | .paragraph _ | .heading _ _ | .code _ | .rule => false
  | .list _ children | .item children | .quote children | .other _ children => tableInBlocks children
  | .table _ => true

def tableInBlocks : List Block → Bool
  | [] => false
  | b :: r => b.hasTable || tableInBlocks r

end

mutual

theorem hasTable_block (k : Reader) (room : Nat) :
    (b : Outline) → (k.block room b).1.hasTable = b.hasTable
  | .paragraph _ | .heading _ _ | .code _ | .rule | .html | .table _ => rfl
  | .list _ items => tableInBlocks_blocks k room items
  | .item children => tableInBlocks_blocks k room children
  | .quote children => tableInBlocks_blocks k room children

theorem tableInBlocks_blocks (k : Reader) (room : Nat) :
    (outlines : List Outline) → tableInBlocks (k.blocks room outlines).1 = tableIn outlines
  | [] => rfl
  | b :: r => by
    rw [tableIn, ← hasTable_block k room b, ← tableInBlocks_blocks k _ r]
    rfl

end

section
variable {e : Extensions}

def AllowedContent (e : Extensions) (content : List Inline) : Prop :=
  ∀ n ∈ leaves [] content, n.Allowed e

theorem allowedBelow_leaves {content : List Inline} (h : AllowedContent e content) :
    ∀ n ∈ leaves [] content, n.AllowedBelow e := by
  intro n hn
  refine n.allowedBelow_of (h n hn) ?_
  rw [n.content_eq_nil_of_isLeaf (soundLeaf_leaves [] content n hn).1]
  exact List.forall_mem_nil _

theorem allowedBelow_paragraph {content : List Inline} (h : AllowedContent e content) :
    (Node.paragraph (leaves [] content)).AllowedBelow e :=
  Node.allowedBelow_of _ (Node.allowed_of_plain rfl rfl) (allowedBelow_leaves h)

theorem allowedBelow_paragraphNode? {content : List Inline} (h : AllowedContent e content) :
    ∀ n ∈ paragraphNode? (leaves [] content), n.AllowedBelow e := by
  have hparagraph := allowedBelow_paragraph h
  intro n hn
  unfold paragraphNode? at hn
  split at hn
  · cases hn
  · cases hn
    exact hparagraph

theorem allowedBelow_code (b : CodeBlock) : b.node.AllowedBelow e := by
  refine Node.allowedBelow_of _ (Node.allowed_of_plain rfl rfl) fun n hn => ?_
  have hn : n ∈ textLeaf b.body [] := hn
  have hleaf := (soundLeaf_textLeaf b.body [] n hn).1
  have hmarks : .strike ∈ ([] : List Mark) → e.strikethrough = true := nofun
  refine n.allowedBelow_of (allowed_textLeaf hmarks b.body n hn) ?_
  rw [n.content_eq_nil_of_isLeaf hleaf]
  exact List.forall_mem_nil _

theorem allowedBelow_listNode (ordered : Bool) {items : List Node}
    (h : ∀ n ∈ items, n.AllowedBelow e) : (listNode ordered items).AllowedBelow e := by
  cases ordered with
  | true => exact Node.allowedBelow_of (.orderedList items) (Node.allowed_of_plain rfl rfl) h
  | false => exact Node.allowedBelow_of (.bulletList items) (Node.allowed_of_plain rfl rfl) h

section
variable (htable : e.table = true)
include htable

theorem allowedBelow_cellNode (header : Bool) {cell : List Inline} (h : AllowedContent e cell) :
    (cellNode header cell).AllowedBelow e := by
  have hchild := List.forall_mem_singleton.2 (allowedBelow_paragraph h)
  cases header with
  | true => exact Node.allowedBelow_of (.tableHeader _) (Node.allowed_of_table _ htable rfl) hchild
  | false => exact Node.allowedBelow_of (.tableCell _) (Node.allowed_of_table _ htable rfl) hchild

theorem allowedBelow_rowNode (header : Bool) {row : List (List Inline)}
    (h : ∀ cell ∈ row, AllowedContent e cell) : (rowNode header row).AllowedBelow e := by
  refine Node.allowedBelow_of _ (Node.allowed_of_table _ htable rfl) fun n hn => ?_
  obtain ⟨cell, hcell, rfl⟩ := List.mem_map.1 hn
  exact allowedBelow_cellNode htable header (h cell hcell)

theorem allowedBelow_tableNode {rows : List (List (List Inline))}
    (h : ∀ row ∈ rows, ∀ cell ∈ row, AllowedContent e cell) : (tableNode rows).AllowedBelow e := by
  cases rows with
  | nil => exact Node.allowedBelow_of _ (Node.allowed_of_table _ htable rfl) (List.forall_mem_nil _)
  | cons header rows =>
    obtain ⟨hheader, hrows⟩ := List.forall_mem_cons.1 h
    refine Node.allowedBelow_of _ (Node.allowed_of_table _ htable rfl) ?_
    refine List.forall_mem_cons.2 ⟨allowedBelow_rowNode htable true hheader, fun n hn => ?_⟩
    obtain ⟨row, hrow, rfl⟩ := List.mem_map.1 hn
    exact allowedBelow_rowNode htable false (hrows row hrow)

end

structure Block.Allowed (e : Extensions) (b : Block) : Prop where
  table : b.hasTable = true → e.table = true
  contents : ∀ content ∈ b.contents, AllowedContent e content

structure AllowedBlocks (e : Extensions) (blocks : List Block) : Prop where
  table : tableInBlocks blocks = true → e.table = true
  contents : ∀ content ∈ contentsIn blocks, AllowedContent e content

theorem allowedBlocks_cons {b : Block} {r : List Block} (h : AllowedBlocks e (b :: r)) :
    b.Allowed e ∧ AllowedBlocks e r := by
  obtain ⟨hb, hr⟩ := List.forall_mem_append.1 h.contents
  have htable := h.table
  rw [tableInBlocks, Bool.or_eq_true_iff] at htable
  exact ⟨⟨fun ht => htable (.inl ht), hb⟩, ⟨fun ht => htable (.inr ht), hr⟩⟩

mutual

theorem allowedBelow_node? : (b : Block) → b.Allowed e → ∀ n ∈ b.node?, n.AllowedBelow e
  | .paragraph content, h => by
    rw [Block.node?]
    exact allowedBelow_paragraphNode? (List.forall_mem_singleton.1 h.contents)
  | .heading level content, h => by
    rw [Block.node?]
    rintro n ⟨⟩
    exact Node.allowedBelow_of _ (Node.allowed_of_plain rfl rfl)
      (allowedBelow_leaves (List.forall_mem_singleton.1 h.contents))
  | .list ordered children, h => by
    rw [Block.node?]
    rintro n ⟨⟩
    exact allowedBelow_listNode ordered (allowedBelow_itemNodes children ⟨h.table, h.contents⟩)
  | .item children, h => by
    rw [Block.node?]
    exact fun n hn => allowedBelow_nodes children ⟨h.table, h.contents⟩ n (List.mem_of_head? hn)
  | .code block, _ => by
    rw [Block.node?]
    rintro n ⟨⟩
    exact allowedBelow_code block
  | .quote children, h => by
    rw [Block.node?]
    rintro n ⟨⟩
    exact Node.allowedBelow_of _ (Node.allowed_of_plain rfl rfl)
      (allowedBelow_nodes children ⟨h.table, h.contents⟩)
  | .rule, _ => by
    rw [Block.node?]
    rintro n ⟨⟩
    exact Node.allowedBelow_of _ (Node.allowed_of_plain rfl rfl) (List.forall_mem_nil _)
  | .table rows, h => by
    rw [Block.node?]
    rintro n ⟨⟩
    refine allowedBelow_tableNode (h.table rfl) fun row hrow cell hcell => ?_
    exact h.contents cell (List.mem_flatten.2 ⟨row, hrow, hcell⟩)
  | .other _ children, h => by
    rw [Block.node?]
    exact fun n hn => allowedBelow_nodes children ⟨h.table, h.contents⟩ n (List.mem_of_head? hn)

theorem allowedBelow_nodes :
    (blocks : List Block) → AllowedBlocks e blocks → ∀ n ∈ nodes blocks, n.AllowedBelow e
  | [], _ => by
    rw [nodes]
    exact List.forall_mem_nil _
  | b :: r, h => by
    obtain ⟨hb, hr⟩ := allowedBlocks_cons h
    rw [nodes]
    refine List.forall_mem_append.2 ⟨fun n hn => ?_, allowedBelow_nodes r hr⟩
    exact allowedBelow_node? b hb n (Option.mem_toList.1 hn)

theorem allowedBelow_itemNodes :
    (blocks : List Block) → AllowedBlocks e blocks → ∀ n ∈ itemNodes blocks, n.AllowedBelow e
  | [], _ => by
    rw [itemNodes]
    exact List.forall_mem_nil _
  | .item children :: r, h => by
    obtain ⟨hitem, hr⟩ := allowedBlocks_cons h
    rw [itemNodes]
    refine List.forall_mem_cons.2 ⟨?_, allowedBelow_itemNodes r hr⟩
    exact Node.allowedBelow_of _ (Node.allowed_of_plain rfl rfl)
      (allowedBelow_nodes children ⟨hitem.table, hitem.contents⟩)
  | .paragraph _ :: r, h | .heading _ _ :: r, h | .list _ _ :: r, h | .code _ :: r, h
  | .quote _ :: r, h | .rule :: r, h | .table _ :: r, h | .other _ _ :: r, h => by
    rw [itemNodes]
    · exact allowedBelow_itemNodes r (allowedBlocks_cons h).2
    · rintro children ⟨⟩

end

end

theorem allowedBlocks_ofMarkdown (e : Extensions) (text : String) :
    AllowedBlocks e (ofMarkdown e text) := by
  constructor
  · rw [ofMarkdown_eq, tableInBlocks_blocks, tableIn_iff]
    rintro ⟨b, hb, htable⟩
    exact (Draft.allowed_ofText e.options text.toList).done b (List.mem_reverse.1 hb) htable
  · rw [contentsIn_ofMarkdown]
    intro content hcontent
    obtain ⟨spans, hspans, rfl⟩ := List.mem_map.1 hcontent
    obtain ⟨p, -, room, rfl⟩ := Reader.mem_spans _ _ _ spans hspans
    exact allowed_leaves _ _ (allowed_readPassage e.options _ room p)

/-- Every node of a document is allowed by the extensions that its text was read with. -/
theorem allowed_document (e : Extensions) (text : String) :
    ∀ n ∈ Node.preorderList (document (ofMarkdown e text)).content, n.Allowed e := by
  intro n hn
  obtain ⟨m, hm, hbelow⟩ := (Node.mem_preorderList n _).1 hn
  exact allowedBelow_nodes _ (allowedBlocks_ofMarkdown e text) m hm n hbelow

theorem hasNoTable_document (e : Extensions) (text : String) (h : e.table = false) :
    (document (ofMarkdown e text)).HasNoTable := by
  intro n hn
  by_contra hpart
  have htable := (allowed_document e text n hn).table (Bool.not_eq_false _ ▸ hpart)
  rw [h] at htable
  cases htable

theorem hasNoStrike_document (e : Extensions) (text : String) (h : e.strikethrough = false) :
    (document (ofMarkdown e text)).HasNoStrike := by
  intro n hn hmark
  have hstrike := (allowed_document e text n hn).strike hmark
  rw [h] at hstrike
  cases hstrike

/-- What is switched off leaves no trace in any document, also where a configuration does it: its
entries are those that the extensions of the settings are read from. -/
theorem document_of_switchedOff (text : String) :
    (∀ e : Extensions,
      (e.table = false → (document (ofMarkdown e text)).HasNoTable) ∧
        (e.strikethrough = false → (document (ofMarkdown e text)).HasNoStrike)) ∧
    ∀ (v : Value) (content : Content) (settings : Settings),
      v.section .parser = .ok content → Settings.read v = .ok settings →
        (content.truth? .parser 0 "table" = .ok (some false) →
          (document (ofMarkdown settings.extensions text)).HasNoTable) ∧
        (content.truth? .parser 1 "strikethrough" = .ok (some false) →
          (document (ofMarkdown settings.extensions text)).HasNoStrike) := by
  refine ⟨fun e => ⟨hasNoTable_document e text, hasNoStrike_document e text⟩, ?_⟩
  intro v content settings hcontent hread
  obtain ⟨htable, hstrike, -⟩ :=
    (readParser_eq_ok_iff content _).1 (readParser_of_read hread hcontent)
  constructor
  · intro hoff
    rw [hoff] at htable
    exact hasNoTable_document _ text (Option.some.inj (Except.ok.inj htable)).symm
  · intro hoff
    rw [hoff] at hstrike
    exact hasNoStrike_document _ text (Option.some.inj (Except.ok.inj hstrike)).symm

def plainParser : Content :=
  .named [("table", .scalar none (.boolean false)), ("strikethrough", .scalar none (.boolean false)),
    ("autolink", .scalar none (.boolean true))]

def plainDefaults : Value :=
  .table none
    [("parser", .table none [("table", .scalar none (.boolean false)),
        ("strikethrough", .scalar none (.boolean false)),
        ("autolink", .scalar none (.boolean true))]),
      ("output", .table none [("format", .scalar none (.string "json")),
        ("pretty", .scalar none (.boolean true))]),
      ("logging", .table none [("level", .scalar none (.string "warn"))])]

theorem plainDefaults_section : plainDefaults.section .parser = .ok plainParser := by
  rfl

theorem plainDefaults_read :
    Settings.read plainDefaults = .ok ⟨⟨false, false, true⟩, "json", true, "warn"⟩ := by
  rfl

theorem document_of_plainDefaults :
    (plainDefaults.section .parser = .ok plainParser ∧
      Settings.read plainDefaults = .ok ⟨⟨false, false, true⟩, "json", true, "warn"⟩ ∧
        plainParser.truth? .parser 0 "table" = .ok (some false) ∧
          plainParser.truth? .parser 1 "strikethrough" = .ok (some false)) ∧
      (document (ofMarkdown ⟨false, false, true⟩ "| a |\n| - |\n\n~~b~~\n")).HasNoTable ∧
        (document (ofMarkdown ⟨false, false, true⟩ "| a |\n| - |\n\n~~b~~\n")).HasNoStrike := by
  have hall := document_of_switchedOff "| a |\n| - |\n\n~~b~~\n"
  obtain ⟨htable, hstrike⟩ := hall.2 _ _ _ plainDefaults_section plainDefaults_read
  exact ⟨⟨plainDefaults_section, plainDefaults_read, rfl, rfl⟩, htable rfl, hstrike rfl⟩

end Source

end MarkdownToAdf
