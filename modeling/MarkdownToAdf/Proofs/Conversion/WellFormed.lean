import MarkdownToAdf.Conversion.Block
import MarkdownToAdf.Proofs.Adf.Runs

set_option autoImplicit false

/-!
# Converted documents are well formed

Inline content becomes leaves that cannot be joined any further, and every block becomes a node
that keeps the grammar at every depth. This holds for every source tree, also for those that no
Markdown is read into.
-/
namespace MarkdownToAdf.Source
open Adf Text

def SoundLeaf (n : Node) : Prop :=
  n.isLeaf = true ∧ n.sound = true

theorem soundLeaf_textLeaf (literal : String) (marks : List Mark) :
    ∀ n ∈ textLeaf literal marks, SoundLeaf n := by
  intro n hn
  unfold textLeaf at hn
  split at hn
  · cases hn
  · rename_i hne
    rw [List.mem_singleton.1 hn]
    exact ⟨rfl, bne_iff_ne.2 hne⟩

theorem soundLeaf_lineBreak (b : LineBreak) : SoundLeaf b.leaf := by
  cases b <;> exact ⟨rfl, by decide⟩

theorem soundLeaf_joinRuns (nodes : List Node) (h : ∀ n ∈ nodes, SoundLeaf n) :
    ∀ n ∈ joinRuns nodes, SoundLeaf n := by
  refine forall_joinRuns (fun s t ms hs _ => ⟨rfl, bne_iff_ne.2 fun h => ?_⟩) nodes h
  have hempty : s = "" := (String.append_eq_empty_iff.1 h).1
  exact bne_iff_ne.1 hs.2 hempty

mutual

theorem soundLeaf_inline (marks : List Mark) :
    (i : Inline) → ∀ n ∈ i.leaves marks, SoundLeaf n
  | .text literal lineBreak => by
    rw [Inline.leaves]
    refine List.forall_mem_append.2 ⟨soundLeaf_textLeaf literal marks, ?_⟩
    cases lineBreak with
    | none => intro n hn; cases hn
    | some b => exact List.forall_mem_singleton.2 (soundLeaf_lineBreak b)
  | .emphasis level children => by
    rw [Inline.leaves]
    exact soundLeaf_joinRuns _ (soundLeaf_walk _ children)
  | .code literal => by
    rw [Inline.leaves]
    exact soundLeaf_textLeaf _ _
  | .link destination children => by
    rw [Inline.leaves]
    exact soundLeaf_joinRuns _ (soundLeaf_walk _ children)
  | .autolink url label .url => by
    rw [Inline.leaves]
    exact List.forall_mem_singleton.2 ⟨rfl, rfl⟩
  | .autolink url label .email => by
    rw [Inline.leaves]
    exact soundLeaf_textLeaf _ _
  | .image destination alt => by
    rw [Inline.leaves]
    exact soundLeaf_textLeaf _ _
  | .strike children => by
    rw [Inline.leaves]
    exact soundLeaf_joinRuns _ (soundLeaf_walk _ children)
  | .html _ => by
    rw [Inline.leaves]
    intro n hn
    cases hn
  | .other _ children => by
    rw [Inline.leaves]
    exact soundLeaf_joinRuns _ (soundLeaf_walk _ children)

theorem soundLeaf_walk (marks : List Mark) :
    (inlines : List Inline) → ∀ n ∈ walk marks inlines, SoundLeaf n
  | [] => by
    intro n hn
    rw [walk] at hn
    cases hn
  | i :: r => by
    rw [walk]
    exact List.forall_mem_append.2 ⟨soundLeaf_inline marks i, soundLeaf_walk marks r⟩

end

theorem soundLeaf_leaves (marks : List Mark) (inlines : List Inline) :
    ∀ n ∈ leaves marks inlines, SoundLeaf n :=
  soundLeaf_joinRuns _ (soundLeaf_walk marks inlines)

theorem SoundLeaf.wellFormed {n : Node} (h : SoundLeaf n) : n.WellFormed := by
  obtain ⟨hleaf, hsound⟩ := h
  rw [Node.wellFormed_iff, n.content_eq_nil_of_isLeaf hleaf]
  exact ⟨hsound, .nil, fun m hm => by cases hm⟩

theorem wellFormed_of_leaves (n : Node) (inlines : List Inline)
    (hcontent : n.content = leaves [] inlines) (hsound : n.sound = true) : n.WellFormed := by
  rw [Node.wellFormed_iff, hcontent]
  exact ⟨hsound, separated_joinRuns _,
    fun m hm => (soundLeaf_leaves [] inlines m hm).wellFormed⟩

theorem all_isLeaf_leaves (inlines : List Inline) :
    (leaves [] inlines).all Node.isLeaf = true :=
  List.all_eq_true.2 fun n hn => (soundLeaf_leaves [] inlines n hn).1

theorem wellFormed_paragraph (inlines : List Inline) :
    (Node.paragraph (leaves [] inlines)).WellFormed :=
  wellFormed_of_leaves _ inlines rfl (all_isLeaf_leaves inlines)

theorem wellFormed_of_children (n : Node) (hsound : n.sound = true)
    (h : ∀ m ∈ n.content, m.text? = none ∧ m.WellFormed) : n.WellFormed :=
  n.wellFormed_iff.2 ⟨hsound, separated_of_forall _ fun m hm => (h m hm).1, fun m hm => (h m hm).2⟩

theorem words_nonblank (text : List Char) :
    ∀ w ∈ words text, w ≠ [] ∧ ∀ c ∈ w, isBlank c = false := by
  fun_induction words text with
  | case1 => intro w hw; cases hw
  | case2 c r hc ih => exact ih
  | case3 c hc => simpa using hc
  | case4 c hc d r hd ih => exact List.forall_mem_cons.2 ⟨by simpa using hc, ih⟩
  | case5 c hc d r hd hr ih =>
    rw [hr]
    simpa using hc
  | case6 c hc d r hd w ws hr ih =>
    rw [hr] at ih ⊢
    obtain ⟨hw, hws⟩ := List.forall_mem_cons.1 ih
    have hall : ∀ d ∈ c :: w, isBlank d = false :=
      List.forall_mem_cons.2 ⟨Bool.eq_false_iff.2 hc, hw.2⟩
    exact List.forall_mem_cons.2 ⟨⟨List.cons_ne_nil c w, hall⟩, hws⟩

theorem isWord_of_mem_language (b : CodeBlock) : ∀ l ∈ b.language, isWord l = true := by
  intro l hl
  unfold CodeBlock.language at hl
  split at hl
  · obtain ⟨w, hw, rfl⟩ := Option.map_eq_some_iff.1 hl
    obtain ⟨hne, hblank⟩ := words_nonblank _ w (List.mem_of_head? hw)
    simpa [isWord, String.ofList_eq_empty_iff, hne] using hblank
  · cases hl

theorem wellFormed_code (b : CodeBlock) : b.node.WellFormed := by
  have hlanguage : b.language.all isWord = true := by
    rw [Option.all_eq_true]
    exact isWord_of_mem_language b
  by_cases hbody : b.body = ""
  · have hnode : b.node = .codeBlock b.language [] := by simp [CodeBlock.node, textLeaf, hbody]
    rw [hnode]
    exact wellFormed_of_children _ (by simp [Node.sound, hlanguage, isPlain])
      fun m hm => by cases hm
  · have hnode : b.node = .codeBlock b.language [.text b.body []] := by
      simp [CodeBlock.node, textLeaf, hbody]
    have htext : SoundLeaf (.text b.body []) := ⟨rfl, bne_iff_ne.2 hbody⟩
    rw [hnode, Node.wellFormed_iff]
    exact ⟨by simp [Node.sound, hlanguage, isPlain], List.isChain_singleton _,
      List.forall_mem_singleton.2 htext.wellFormed⟩

theorem wellFormed_cellNode (header : Bool) (cell : List Inline) :
    (cellNode header cell).WellFormed := by
  have hchild : ∀ n ∈ [Node.paragraph (leaves [] cell)], n.text? = none ∧ n.WellFormed :=
    List.forall_mem_singleton.2 ⟨rfl, wellFormed_paragraph cell⟩
  cases header with
  | true => exact wellFormed_of_children (cellNode true cell) rfl hchild
  | false => exact wellFormed_of_children (cellNode false cell) rfl hchild

theorem text?_cellNode (header : Bool) (cell : List Inline) :
    (cellNode header cell).text? = none := by
  cases header <;> rfl

theorem wellFormed_rowNode (header : Bool) (row : List (List Inline)) :
    (rowNode header row).WellFormed := by
  refine wellFormed_of_children (rowNode header row) rfl ?_
  intro n hn
  obtain ⟨cell, -, rfl⟩ := List.mem_map.1 hn
  exact ⟨text?_cellNode header cell, wellFormed_cellNode header cell⟩

theorem isRowOf_header (row : List (List Inline)) :
    (rowNode true row).isRowOf Node.isHeader = true := by
  refine List.all_eq_true.2 fun n hn => ?_
  obtain ⟨cell, -, rfl⟩ := List.mem_map.1 hn
  rfl

theorem isRowOf_cell (row : List (List Inline)) :
    (rowNode false row).isRowOf Node.isCell = true := by
  refine List.all_eq_true.2 fun n hn => ?_
  obtain ⟨cell, -, rfl⟩ := List.mem_map.1 hn
  rfl

theorem wellFormed_tableNode (rows : List (List (List Inline))) :
    (tableNode rows).WellFormed := by
  cases rows with
  | nil => exact wellFormed_of_children _ rfl fun m hm => by cases hm
  | cons header rows =>
    have hcells : (rows.map (rowNode false)).all (Node.isRowOf Node.isCell) = true := by
      refine List.all_eq_true.2 fun n hn => ?_
      obtain ⟨row, -, rfl⟩ := List.mem_map.1 hn
      exact isRowOf_cell row
    have hheaded : (tableNode (header :: rows)).sound = true :=
      Bool.and_eq_true_iff.2 ⟨isRowOf_header header, hcells⟩
    refine wellFormed_of_children _ hheaded ?_
    refine List.forall_mem_cons.2 ⟨⟨rfl, wellFormed_rowNode true header⟩, fun n hn => ?_⟩
    obtain ⟨row, -, rfl⟩ := List.mem_map.1 hn
    exact ⟨rfl, wellFormed_rowNode false row⟩

def SoundBlock (n : Node) : Prop :=
  n.isBlock = true ∧ n.WellFormed

def SoundItem (n : Node) : Prop :=
  n.isItem = true ∧ n.WellFormed

theorem text?_eq_none_of_isItem (n : Node) (h : n.isItem = true) : n.text? = none := by
  cases n with
  | text => cases h
  | _ => rfl

theorem wellFormed_of_blocks (n : Node) (hsound : n.sound = n.content.all Node.isBlock)
    (h : ∀ m ∈ n.content, SoundBlock m) : n.WellFormed := by
  refine wellFormed_of_children n ?_ fun m hm => ⟨m.text?_eq_none_of_isBlock (h m hm).1, (h m hm).2⟩
  rw [hsound]
  exact List.all_eq_true.2 fun m hm => (h m hm).1

theorem soundBlock_listNode (ordered : Bool) (items : List Node) (h : ∀ n ∈ items, SoundItem n) :
    SoundBlock (listNode ordered items) := by
  have hitems : items.all Node.isItem = true := List.all_eq_true.2 fun n hn => (h n hn).1
  have hchildren : ∀ n ∈ items, n.text? = none ∧ n.WellFormed := fun n hn =>
    ⟨text?_eq_none_of_isItem n (h n hn).1, (h n hn).2⟩
  cases ordered with
  | true => exact ⟨rfl, wellFormed_of_children (.orderedList items) hitems hchildren⟩
  | false => exact ⟨rfl, wellFormed_of_children (.bulletList items) hitems hchildren⟩

theorem soundBlock_paragraph? (inlines : List Inline) :
    ∀ n ∈ paragraphNode? (leaves [] inlines), SoundBlock n := by
  have hwell := wellFormed_paragraph inlines
  intro n hn
  cases hleaves : leaves [] inlines with
  | nil =>
    rw [hleaves] at hn
    cases hn
  | cons m r =>
    rw [hleaves] at hn hwell
    cases hn
    exact ⟨rfl, hwell⟩

mutual

theorem soundBlock_node? : (b : Block) → ∀ n ∈ b.node?, SoundBlock n
  | .paragraph content => by
    rw [Block.node?]
    exact soundBlock_paragraph? content
  | .heading level content => by
    rw [Block.node?]
    rintro n ⟨⟩
    exact ⟨rfl, wellFormed_of_leaves _ content rfl (all_isLeaf_leaves content)⟩
  | .list ordered children => by
    rw [Block.node?]
    rintro n ⟨⟩
    exact soundBlock_listNode ordered _ (soundItem_itemNodes children)
  | .item children => by
    rw [Block.node?]
    exact fun n hn => soundBlock_nodes children n (List.mem_of_head? hn)
  | .code block => by
    rw [Block.node?]
    rintro n ⟨⟩
    exact ⟨rfl, wellFormed_code block⟩
  | .quote children => by
    rw [Block.node?]
    rintro n ⟨⟩
    exact ⟨rfl, wellFormed_of_blocks _ rfl (soundBlock_nodes children)⟩
  | .rule => by
    rw [Block.node?]
    rintro n ⟨⟩
    exact ⟨rfl, wellFormed_of_children .rule rfl fun m hm => by cases hm⟩
  | .table rows => by
    rw [Block.node?]
    rintro n ⟨⟩
    exact ⟨by cases rows <;> rfl, wellFormed_tableNode rows⟩
  | .other _ children => by
    rw [Block.node?]
    -- the child that is lifted was sound where it stood, and so it is here
    exact fun n hn => soundBlock_nodes children n (List.mem_of_head? hn)

theorem soundBlock_nodes : (blocks : List Block) → ∀ n ∈ nodes blocks, SoundBlock n
  | [] => by
    rw [nodes]
    intro n hn
    cases hn
  | b :: r => by
    rw [nodes]
    refine List.forall_mem_append.2 ⟨fun n hn => ?_, soundBlock_nodes r⟩
    exact soundBlock_node? b n (Option.mem_toList.1 hn)

theorem soundItem_itemNodes : (blocks : List Block) → ∀ n ∈ itemNodes blocks, SoundItem n
  | [] => by
    rw [itemNodes]
    intro n hn
    cases hn
  | .item children :: r => by
    rw [itemNodes]
    refine List.forall_mem_cons.2 ⟨⟨rfl, ?_⟩, soundItem_itemNodes r⟩
    exact wellFormed_of_blocks (.listItem _) rfl (soundBlock_nodes children)
  | .paragraph _ :: r | .heading _ _ :: r | .list _ _ :: r | .code _ :: r | .quote _ :: r
  | .rule :: r | .table _ :: r | .other _ _ :: r => by
    rw [itemNodes]
    · exact soundItem_itemNodes r
    · rintro children ⟨⟩

end

theorem sound_document (blocks : List Block) :
    ∀ m ∈ Node.preorderList (document blocks).content, m.sound = true ∧ Separated m.content := by
  intro m hm
  obtain ⟨n, hn, hmn⟩ := (Node.mem_preorderList m _).1 hm
  exact (soundBlock_nodes blocks n hn).2 m hmn

/-- Whatever the source tree, the document keeps the whole grammar at every depth. -/
theorem wellFormed_document (blocks : List Block) : (document blocks).WellFormed where
  version := rfl
  blocks := fun n hn => (soundBlock_nodes blocks n hn).1
  separated := separated_of_forall _ fun n hn =>
    n.text?_eq_none_of_isBlock (soundBlock_nodes blocks n hn).1
  nodes := sound_document blocks

end MarkdownToAdf.Source
