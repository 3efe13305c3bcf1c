import MarkdownToAdf.Markdown.Reading

set_option autoImplicit false

/-!
# Outlines and extensions

A table begins in one place only, under a paragraph that is followed by a delimiter row, and that
place asks for the extension. Everything else hands on the tables that are there already.
-/
namespace MarkdownToAdf.Markdown

mutual

def Outline.hasTable : Outline → Bool
  | .paragraph _ | .heading _ _ | .code _ | .rule | .html => false
  | .list _ children | .item children | .quote children => tableIn children
  | .table _ => true

def tableIn : List Outline → Bool
  | [] => false
  | b :: r => b.hasTable || tableIn r

end

theorem tableIn_iff (outlines : List Outline) :
    tableIn outlines = true ↔ ∃ b ∈ outlines, b.hasTable = true := by
  induction outlines with
  | nil => simp [tableIn]
  | cons b r ih => simp [tableIn, ih]

def Leaf.isTable : Leaf → Bool
  | .table _ => true
  | _ => false

def Outline.Allowed (e : Options) (b : Outline) : Prop :=
  b.hasTable = true → e.table = true

structure Draft.Allowed (e : Options) (d : Draft) : Prop where
  frames : ∀ f ∈ d.frames, ∀ b ∈ f.done, b.Allowed e
  done : ∀ b ∈ d.done, b.Allowed e
  leaf : d.leaf.isTable = true → e.table = true

section
variable {e : Options}

theorem allowed_of_no_table {b : Outline} (h : b.hasTable = false) : b.Allowed e := by
  intro htable
  rw [h] at htable
  cases htable

theorem allowed_outline (f : Frame) (h : ∀ b ∈ f.done, b.Allowed e) : f.outline.Allowed e := by
  intro htable
  have hchildren : tableIn f.done.reverse = true := by
    unfold Frame.outline at htable
    split at htable <;> exact htable
  obtain ⟨b, hb, hmem⟩ := (tableIn_iff _).1 hchildren
  exact h b (List.mem_reverse.1 hb) hmem

end

namespace Draft
variable {e : Options} {d : Draft}

theorem Allowed.add (h : d.Allowed e) {b : Outline} (hb : b.Allowed e) : (d.add b).Allowed e := by
  unfold Draft.add
  split
  · exact ⟨h.frames, List.forall_mem_cons.2 ⟨hb, h.done⟩, h.leaf⟩
  · rename_i f fs heq
    have hframes := h.frames
    rw [heq] at hframes
    obtain ⟨hf, hfs⟩ := List.forall_mem_cons.1 hframes
    exact ⟨List.forall_mem_cons.2 ⟨List.forall_mem_cons.2 ⟨hb, hf⟩, hfs⟩, h.done, h.leaf⟩

theorem Allowed.withLeaf (h : d.Allowed e) {leaf : Leaf} (hleaf : leaf.isTable = false) :
    ({ d with leaf := leaf } : Draft).Allowed e := by
  refine ⟨h.frames, h.done, fun htable => ?_⟩
  rw [hleaf] at htable
  cases htable

theorem Allowed.withTable (h : d.Allowed e) (htable : e.table = true) (t : OpenTable) :
    ({ d with leaf := .table t } : Draft).Allowed e :=
  ⟨h.frames, h.done, fun _ => htable⟩

theorem Allowed.withDefinitions (h : d.Allowed e) (definitions : List Definition) :
    ({ d with definitions := definitions } : Draft).Allowed e :=
  ⟨h.frames, h.done, h.leaf⟩

theorem Allowed.closeLeaf (h : d.Allowed e) : d.closeLeaf.Allowed e := by
  have hclosed : ({ d with leaf := .nothing } : Draft).Allowed e := h.withLeaf rfl
  unfold Draft.closeLeaf
  split
  · exact h
  · dsimp only
    split
    · exact hclosed.withDefinitions _
    · exact (hclosed.withDefinitions _).add (allowed_of_no_table rfl)
  · exact hclosed.add (allowed_of_no_table rfl)
  · exact hclosed.add (allowed_of_no_table rfl)
  · exact hclosed.add (allowed_of_no_table rfl)
  · rename_i t heq
    exact hclosed.add fun _ => h.leaf (by rw [heq]; rfl)

theorem Allowed.closeFrame (h : d.Allowed e) : d.closeFrame.Allowed e := by
  unfold Draft.closeFrame
  split
  · exact h
  · rename_i f fs heq
    have hframes := h.frames
    rw [heq] at hframes
    obtain ⟨hf, hfs⟩ := List.forall_mem_cons.1 hframes
    have houter : ({ d with frames := fs } : Draft).Allowed e := ⟨hfs, h.done, h.leaf⟩
    exact houter.add (allowed_outline f hf)

theorem Allowed.close (h : d.Allowed e) (n : Nat) : (d.close n).Allowed e := by
  induction n with
  | zero => exact h.closeLeaf
  | succ n ih => exact ih.closeFrame

theorem Allowed.leaveList (h : d.Allowed e) : d.leaveList.Allowed e := by
  unfold Draft.leaveList
  split
  · split
    · exact h.closeFrame
    · exact h
  · exact h

theorem Allowed.openFrame (h : d.Allowed e) (c : Container) : (d.openFrame c).Allowed e :=
  ⟨List.forall_mem_cons.2 ⟨List.forall_mem_nil _, h.frames⟩, h.done, h.leaf⟩

theorem Allowed.openList (h : d.Allowed e) (kind : ListKind) : (d.openList kind).Allowed e := by
  unfold Draft.openList
  split
  · split
    · exact h
    · exact h.leaveList.openFrame _
  · exact h.openFrame _

theorem Allowed.openParagraph (h : d.Allowed e) (c : Cursor) : (d.openParagraph c).Allowed e :=
  h.leaveList.withLeaf rfl

theorem Allowed.begins (h : d.Allowed e) (inside : Cursor → Draft → Draft) (s : Start)
    (hinside : ∀ (c : Cursor) (d : Draft), d.Allowed e → (inside c d).Allowed e) :
    (d.begins inside s).Allowed e := by
  have hleft := h.leaveList
  cases s with
  | quote behind => exact hinside _ _ (hleft.openFrame .quote)
  | item kind width behind => exact hinside _ _ ((h.openList kind).openFrame (.item width))
  | heading level text offset => exact hleft.add (allowed_of_no_table rfl)
  | fence f behind => exact hleft.withLeaf rfl
  | html kind text =>
    have hopen : ({ d.leaveList with leaf := .html kind } : Draft).Allowed e :=
      hleft.withLeaf rfl
    unfold Draft.begins
    dsimp only
    split
    · exact hopen.closeLeaf
    · exact hopen
  | rule => exact hleft.add (allowed_of_no_table rfl)
  | code behind => exact hleft.withLeaf rfl

theorem Allowed.beginBlocks (fuel depth : Nat) (c : Cursor) (h : d.Allowed e) :
    (d.beginBlocks fuel depth c).Allowed e := by
  induction fuel generalizing depth c d with
  | zero => exact h
  | succ fuel ih =>
    unfold Draft.beginBlocks
    split
    · exact h.begins _ _ fun c _ hd => ih (depth + 1) c hd
    · split
      · exact h
      · exact h.openParagraph c

theorem Allowed.beginAt (h : d.Allowed e) (s : Start) (c : Cursor) : (d.beginAt s c).Allowed e :=
  h.begins _ _ fun c _ hd => hd.beginBlocks _ _ c

section
variable (h : d.Allowed e) (c : Cursor)
include h

theorem Allowed.interrupt (left : Nat) : (d.interrupt left c).Allowed e := by
  unfold Draft.interrupt
  split
  · exact (h.close left).beginAt _ c
  · split
    · exact h.close left
    · split
      · exact h.withLeaf rfl
      · exact (h.close left).openParagraph c

theorem Allowed.continueParagraph (p : OpenParagraph) : (d.continueParagraph p c).Allowed e :=
  h.withLeaf rfl

theorem Allowed.underline (level : Nat) (p : OpenParagraph) :
    (d.underline level p c).Allowed e := by
  unfold Draft.underline
  dsimp only
  split
  · exact (h.withDefinitions _).continueParagraph c _
  · have hnothing : Leaf.nothing.isTable = false := rfl
    refine Allowed.add ?_ (allowed_of_no_table rfl)
    exact (h.withLeaf hnothing).withDefinitions _

theorem Allowed.tableOrText (p : OpenParagraph) (htable : e.table = true) :
    (d.tableOrText p c).Allowed e := by
  unfold Draft.tableOrText
  split
  · exact h.continueParagraph c p
  · split
    · exact h.continueParagraph c _
    · have hclosed : ({ d with leaf := .nothing } : Draft).Allowed e := h.withLeaf rfl
      dsimp only
      split
      · exact (hclosed.add (allowed_of_no_table rfl)).withTable htable _
      · exact hclosed.withTable htable _

theorem Allowed.readParagraph (p : OpenParagraph) : (d.readParagraph e p c).Allowed e := by
  unfold Draft.readParagraph
  split
  · exact h.underline c _ p
  · split
    · exact (h.close 0).beginAt _ c
    · split
      · rename_i htable
        exact h.tableOrText c p htable
      · exact h.continueParagraph c p

theorem Allowed.readRow (htable : e.table = true) (t : OpenTable) (row : List Cell) :
    (d.readRow t row c).Allowed e := by
  unfold Draft.readRow
  split
  · exact (h.close 0).beginAt _ c
  · split
    · exact (h.close 0).openParagraph c
    · exact h.withTable htable _

theorem Allowed.readInside : (d.readInside e c).Allowed e := by
  unfold Draft.readInside
  split
  · exact h.interrupt c 0
  · split
    · exact h.interrupt c 0
    · exact h.readParagraph c _
  · split
    · exact h.closeLeaf
    · exact h.withLeaf rfl
  · split
    · exact h.withLeaf rfl
    · split
      · exact h.withLeaf rfl
      · exact h.interrupt c 0
  · split
    · exact h.interrupt c 0
    · split
      · exact h.closeLeaf
      · exact h
  · rename_i t heq
    dsimp only
    split
    · exact h.interrupt c 0
    · exact h.readRow c (h.leaf (by rw [heq]; rfl)) t _

end

theorem Allowed.read (h : d.Allowed e) (line : List Char) : (d.read e line).Allowed e := by
  have hcounted : ({ d with line := d.line + 1 } : Draft).Allowed e := ⟨h.frames, h.done, h.leaf⟩
  unfold Draft.read
  dsimp only
  split
  · exact hcounted.readInside _
  · exact hcounted.interrupt _ _

theorem Allowed.foldl_read (h : d.Allowed e) (lines : List (List Char)) :
    (lines.foldl (Draft.read e) d).Allowed e := by
  induction lines generalizing d with
  | nil => exact h
  | cons line lines ih => exact ih (h.read line)

/-- Whatever a text says, it is drafted without tables if they are switched off. -/
theorem allowed_ofText (e : Options) (text : List Char) : (Draft.ofText e text).Allowed e := by
  have hempty : ({} : Draft).Allowed e :=
    ⟨List.forall_mem_nil _, List.forall_mem_nil _, nofun⟩
  exact (hempty.foldl_read _).close _

end Draft

end MarkdownToAdf.Markdown
