import MarkdownToAdf.Proofs.Markdown.Cuttings

set_option autoImplicit false

/-!
# What drafts hold

Whatever the lines of a text are, the outline that is drafted from them has items as the
children of its lists and nowhere else, and its passages are drawn from the text. One invariant
says both of everything that is complete, and of what is still open.
-/
namespace MarkdownToAdf.Markdown

mutual

/-- Is every item below in a list, and nothing else in one? The outline itself is no item. -/
def Outline.isTidy : Outline → Bool
  | .paragraph _ | .heading _ _ | .code _ | .rule | .html | .table _ => true
  | .list _ items => tidyItemsIn items
  | .item _ => false
  | .quote children => tidyIn children

def tidyIn : List Outline → Bool
  | [] => true
  | b :: r => b.isTidy && tidyIn r

def tidyItemsIn : List Outline → Bool
  | [] => true
  | .item children :: r => tidyIn children && tidyItemsIn r
  | _ :: _ => false

end

def Outline.isTidyItem : Outline → Bool
  | .item children => tidyIn children
  | _ => false

mutual

def Outline.passages : Outline → List Passage
  | .paragraph p => [p]
  | .heading _ p => [p]
  | .list _ items => passagesIn items
  | .item children => passagesIn children
  | .quote children => passagesIn children
  | .code _ | .rule | .html => []
  | .table rows => rows.flatten

def passagesIn : List Outline → List Passage
  | [] => []
  | b :: r => b.passages ++ passagesIn r

end

theorem tidyIn_iff (outlines : List Outline) :
    tidyIn outlines = true ↔ ∀ b ∈ outlines, b.isTidy = true := by
  induction outlines with
  | nil => simp [tidyIn]
  | cons b r ih => rw [tidyIn, Bool.and_eq_true_iff, ih, List.forall_mem_cons]

theorem tidyItemsIn_iff (outlines : List Outline) :
    tidyItemsIn outlines = true ↔ ∀ b ∈ outlines, b.isTidyItem = true := by
  induction outlines with
  | nil => simp [tidyItemsIn]
  | cons b r ih =>
    rw [List.forall_mem_cons, ← ih]
    cases b <;> simp [tidyItemsIn, Outline.isTidyItem]

theorem mem_passagesIn (p : Passage) (outlines : List Outline) :
    p ∈ passagesIn outlines ↔ ∃ b ∈ outlines, p ∈ b.passages := by
  induction outlines with
  | nil => simp [passagesIn]
  | cons b r ih => simp [passagesIn, ih]

def Container.isList : Container → Bool
  | .list _ => true
  | _ => false

def Container.isItem : Container → Bool
  | .item _ => true
  | _ => false

def inList : List Frame → Bool
  | [] => false
  | f :: _ => f.container.isList

def Outline.Drawn (source : List Char) (b : Outline) : Prop :=
  ∀ p ∈ b.passages, DrawnFrom source p.text

def Leaf.Drawn (source : List Char) : Leaf → Prop
  | .paragraph p => ∀ line ∈ p.lines, DrawnFrom source line
  | .table t => ∀ row ∈ t.rows, ∀ p ∈ row, DrawnFrom source p.text
  | _ => True

def Fits (source : List Char) (frames : List Frame) (b : Outline) : Prop :=
  (if inList frames then b.isTidyItem else b.isTidy) = true ∧ b.Drawn source

/-- Everything that is complete fits where it stands, and so do the open containers. -/
def FramesSound (source : List Char) : List Frame → Prop
  | [] => True
  | f :: outer =>
    (∀ b ∈ f.done, Fits source (f :: outer) b) ∧ f.container.isItem = inList outer ∧
      FramesSound source outer

/-- The invariant of a draft. A block that takes lines is never open directly in a list. -/
structure Draft.Sound (source : List Char) (d : Draft) : Prop where
  frames : FramesSound source d.frames
  done : ∀ b ∈ d.done, b.isTidy = true ∧ b.Drawn source
  leaf : d.leaf.Drawn source
  outside : d.leaf ≠ .nothing → inList d.frames = false

def Draft.Settled (source : List Char) (d : Draft) : Prop :=
  d.Sound source ∧ d.leaf = .nothing

theorem drawn_passage {source : List Char} {p : Passage} (h : DrawnFrom source p.text) :
    (Outline.paragraph p).Drawn source :=
  List.forall_mem_singleton.2 h

theorem drawn_heading {source : List Char} (level : Nat) {p : Passage}
    (h : DrawnFrom source p.text) : (Outline.heading level p).Drawn source :=
  List.forall_mem_singleton.2 h

theorem drawn_nothing {source : List Char} {b : Outline} (h : b.passages = []) :
    b.Drawn source := by
  unfold Outline.Drawn
  rw [h]
  exact List.forall_mem_nil _

theorem drawnFrom_textOf {source : List Char} {lines : List (List Char)}
    (h : ∀ line ∈ lines, DrawnFrom source line) : DrawnFrom source (textOf lines) := by
  intro c hc
  obtain ⟨line, hline, hmem⟩ := List.mem_flatten.1 hc
  exact h line (List.mem_reverse.1 hline) c hmem

theorem drawnFrom_definitions {source : List Char} {lines : List (List Char)}
    (h : ∀ line ∈ lines, DrawnFrom source line) :
    DrawnFrom source (definitions (textOf lines)).2 :=
  (drawnFrom_textOf h).of_subset (definitions_suffix _).subset

theorem drawn_paragraphAdd {source content : List Char} {p : OpenParagraph}
    (h : ∀ line ∈ p.lines, DrawnFrom source line) (hcontent : DrawnFrom source content)
    (offset : Nat) : (Leaf.paragraph (p.add content offset)).Drawn source :=
  List.forall_mem_cons.2 ⟨hcontent.append drawnFrom_lineFeed, h⟩

theorem drawn_table? {source : List Char} {p : OpenParagraph} {columns : Nat}
    {preface : Option Passage} {t : OpenTable} (h : ∀ line ∈ p.lines, DrawnFrom source line)
    (ht : p.table? columns = some (preface, t)) :
    (∀ q ∈ preface, DrawnFrom source q.text) ∧ (Leaf.table t).Drawn source := by
  unfold OpenParagraph.table? at ht
  split at ht
  · cases ht
  · rename_i last earlier hlines
    rw [hlines] at h
    obtain ⟨hlast, hearlier⟩ := List.forall_mem_cons.1 h
    dsimp only at ht
    split at ht
    · cases ht
    · cases ht
      constructor
      · intro q hq
        split at hq
        · cases hq
        · cases hq
          exact (drawnFrom_textOf hearlier).of_subset
            (List.Subset.trans (trim_subset _) (unescapePipes_sublist _).subset)
      · refine List.forall_mem_singleton.2 fun q hq => ?_
        obtain ⟨cell, hcell, rfl⟩ := List.mem_map.1 hq
        exact hlast.of_subset
          (List.Subset.trans (cells_subset _ cell hcell) (List.dropLast_subset _))

theorem drawn_tableAdd {source : List Char} {t : OpenTable} {row : List Cell}
    (h : (Leaf.table t).Drawn source) (hrow : ∀ cell ∈ row, DrawnFrom source cell.text)
    (line : Nat) : (Leaf.table (t.add line row)).Drawn source := by
  refine List.forall_mem_cons.2 ⟨List.forall_mem_append.2 ⟨fun q hq => ?_, fun q hq => ?_⟩, h⟩
  · obtain ⟨cell, hcell, rfl⟩ := List.mem_map.1 hq
    exact hrow cell (List.mem_of_mem_take hcell)
  · rw [List.eq_of_mem_replicate hq]
    exact List.forall_mem_nil _

theorem drawn_paragraph? {source : List Char} {leaf : Leaf} {p : OpenParagraph} (hp : leaf.paragraph? = some p)
    (h : leaf.Drawn source) :
    leaf ≠ .nothing ∧ ∀ line ∈ p.lines, DrawnFrom source line := by
  cases leaf with
  | paragraph q =>
    cases hp
    exact ⟨Leaf.noConfusion, h⟩
  | _ => cases hp

namespace Draft
variable {source : List Char} {d : Draft}

theorem leaf_add (d : Draft) (b : Outline) : (d.add b).leaf = d.leaf := by
  unfold add
  split <;> rfl

theorem inList_add (d : Draft) (b : Outline) : inList (d.add b).frames = inList d.frames := by
  unfold add
  split
  · rfl
  · rename_i f fs h
    rw [h]
    rfl

theorem Sound.add (h : d.Sound source) (b : Outline) (hb : Fits source d.frames b) :
    (d.add b).Sound source := by
  refine ⟨?_, ?_, ?_, fun hleaf => ?_⟩
  · unfold Draft.add
    split
    · exact h.frames
    · rename_i f fs heq
      have hframes := h.frames
      rw [heq] at hframes hb
      exact ⟨List.forall_mem_cons.2 ⟨hb, hframes.1⟩, hframes.2⟩
  · unfold Draft.add
    split
    · rename_i heq
      rw [heq] at hb
      exact List.forall_mem_cons.2 ⟨hb, h.done⟩
    · exact h.done
  · rw [leaf_add]
    exact h.leaf
  · rw [leaf_add] at hleaf
    rw [inList_add]
    exact h.outside hleaf

theorem Settled.add (h : d.Settled source) (b : Outline) (hb : Fits source d.frames b) :
    (d.add b).Settled source :=
  ⟨h.1.add b hb, (leaf_add d b).trans h.2⟩

theorem fits_of_isTidy {frames : List Frame} {b : Outline} (hlist : inList frames = false)
    (hb : b.isTidy = true) (hdrawn : b.Drawn source) : Fits source frames b := by
  unfold Fits
  rw [hlist]
  exact ⟨hb, hdrawn⟩

theorem Sound.withLeaf (h : d.Sound source) (hlist : inList d.frames = false) {leaf : Leaf}
    (hleaf : leaf.Drawn source) : ({ d with leaf := leaf } : Draft).Sound source :=
  ⟨h.frames, h.done, hleaf, fun _ => hlist⟩

theorem Sound.withoutLeaf (h : d.Sound source) :
    ({ d with leaf := .nothing } : Draft).Settled source :=
  ⟨⟨h.frames, h.done, trivial, fun hleaf => absurd rfl hleaf⟩, rfl⟩

theorem Settled.withDefinitions (h : d.Settled source) (definitions : List Definition) :
    ({ d with definitions := definitions } : Draft).Settled source :=
  ⟨⟨h.1.frames, h.1.done, h.1.leaf, h.1.outside⟩, h.2⟩

theorem Sound.closeLeaf (h : d.Sound source) : d.closeLeaf.Settled source := by
  unfold Draft.closeLeaf
  have hopen := h.outside
  have hdrawn := h.leaf
  have hsettled := h.withoutLeaf
  split
  · rename_i heq
    exact ⟨h, heq⟩
  all_goals
    rename_i heq
    have hlist : inList d.frames = false := hopen (by rw [heq]; exact Leaf.noConfusion)
    rw [heq] at hdrawn
  · dsimp only
    split
    · exact hsettled.withDefinitions _
    · exact (hsettled.withDefinitions _).add _
        (fits_of_isTidy hlist rfl (drawn_passage (drawnFrom_definitions hdrawn)))
  · exact hsettled.add _ (fits_of_isTidy hlist rfl (drawn_nothing rfl))
  · exact hsettled.add _ (fits_of_isTidy hlist rfl (drawn_nothing rfl))
  · exact hsettled.add _ (fits_of_isTidy hlist rfl (drawn_nothing rfl))
  · refine hsettled.add _ (fits_of_isTidy hlist rfl fun p hp => ?_)
    obtain ⟨row, hrow, hmem⟩ := List.mem_flatten.1 hp
    exact hdrawn row (List.mem_reverse.1 hrow) p hmem

theorem fits_outline (f : Frame) (outer : List Frame) (h : FramesSound source (f :: outer)) :
    Fits source outer f.outline := by
  obtain ⟨hdone, hitem, -⟩ := h
  have htidy : ∀ b ∈ f.done.reverse,
      (if f.container.isList then b.isTidyItem else b.isTidy) = true := fun b hb =>
    (hdone b (List.mem_reverse.1 hb)).1
  have hpassages : f.outline.passages = passagesIn f.done.reverse := by
    unfold Frame.outline
    cases f.container <;> rfl
  refine ⟨?_, fun p hp => ?_⟩
  · rw [← hitem]
    unfold Frame.outline
    cases hc : f.container with
    | quote =>
      rw [hc] at htidy
      exact (tidyIn_iff _).2 htidy
    | list kind =>
      rw [hc] at htidy
      exact (tidyItemsIn_iff _).2 htidy
    | item width =>
      rw [hc] at htidy
      exact (tidyIn_iff _).2 htidy
  · rw [hpassages, mem_passagesIn] at hp
    obtain ⟨b, hb, hmem⟩ := hp
    exact (hdone b (List.mem_reverse.1 hb)).2 p hmem

theorem Settled.closeFrame (h : d.Settled source) : d.closeFrame.Settled source := by
  unfold Draft.closeFrame
  split
  · exact h
  · rename_i f fs heq
    have hframes := h.1.frames
    rw [heq] at hframes
    have houter : ({ d with frames := fs } : Draft).Settled source :=
      ⟨⟨hframes.2.2, h.1.done, h.1.leaf, fun hleaf => absurd h.2 hleaf⟩, h.2⟩
    exact houter.add f.outline (fits_outline f fs hframes)

theorem Sound.close (h : d.Sound source) (n : Nat) : (d.close n).Settled source := by
  induction n with
  | zero => exact h.closeLeaf
  | succ n ih => exact ih.closeFrame

/-- After a list has been left, the innermost container is none: lists do not stand in lists. -/
theorem Settled.leaveList (h : d.Settled source) :
    d.leaveList.Settled source ∧ inList d.leaveList.frames = false := by
  unfold Draft.leaveList
  split
  · rename_i f fs heq
    split
    · rename_i kind hc
      refine ⟨h.closeFrame, ?_⟩
      have hframes := h.1.frames
      rw [heq] at hframes
      unfold Draft.closeFrame
      rw [heq, inList_add, ← hframes.2.1, hc]
      rfl
    · rename_i hc
      refine ⟨h, ?_⟩
      rw [heq]
      cases hcontainer : f.container with
      | list kind => exact absurd hcontainer (hc kind)
      | quote => simp [inList, hcontainer, Container.isList]
      | item width => simp [inList, hcontainer, Container.isList]
  · rename_i heq
    rw [heq]
    exact ⟨h, rfl⟩

theorem Settled.openFrame (h : d.Settled source) (c : Container)
    (hc : c.isItem = inList d.frames) : (d.openFrame c).Settled source :=
  ⟨⟨⟨List.forall_mem_nil _, hc, h.1.frames⟩, h.1.done, h.1.leaf,
    fun hleaf => absurd h.2 hleaf⟩, h.2⟩

theorem Settled.openList (h : d.Settled source) (kind : ListKind) :
    (d.openList kind).Settled source ∧ inList (d.openList kind).frames = true := by
  unfold Draft.openList
  split
  · rename_i f fs heq
    split
    · rename_i hc
      refine ⟨h, ?_⟩
      rw [heq, inList, hc]
      rfl
    · exact ⟨h.leaveList.1.openFrame (.list kind) h.leaveList.2.symm, rfl⟩
  · rename_i heq
    refine ⟨h.openFrame (.list kind) ?_, rfl⟩
    rw [heq]
    rfl

theorem Settled.begins (h : d.Settled source) (inside : Cursor → Draft → Draft) (s : Start)
    (hs : DrawnFrom source s.taken)
    (hinside : ∀ (c : Cursor) (e : Draft), DrawnFrom source c.rest → e.Settled source →
      (inside c e).Sound source) : (begins inside s d).Sound source := by
  obtain ⟨hleft, hlist⟩ := h.leaveList
  cases s with
  | quote behind => exact hinside _ _ hs (hleft.openFrame .quote hlist.symm)
  | item kind width behind =>
    obtain ⟨hopen, hin⟩ := h.openList kind
    exact hinside _ _ hs (hopen.openFrame (.item width) hin.symm)
  | heading level text offset =>
    exact (hleft.add _ (fits_of_isTidy hlist rfl (drawn_heading level hs))).1
  | fence f behind => exact hleft.1.withLeaf hlist trivial
  | html kind text =>
    have hsound : ({ d.leaveList with leaf := .html kind } : Draft).Sound source :=
      hleft.1.withLeaf hlist trivial
    unfold Draft.begins
    dsimp only
    split
    · exact hsound.closeLeaf.1
    · exact hsound
  | rule => exact (hleft.add _ (fits_of_isTidy hlist rfl (drawn_nothing rfl))).1
  | code behind => exact hleft.1.withLeaf hlist trivial

section
variable {c : Cursor} (hc : DrawnFrom source c.rest)
include hc

theorem Settled.openParagraph (h : d.Settled source) : (d.openParagraph c).Sound source := by
  have hcontent : DrawnFrom source c.skipBlanks.content :=
    Cursor.drawnFrom_content (hc.of_subset c.skipBlanks_suffix.subset)
  exact h.leaveList.1.1.withLeaf h.leaveList.2
    (drawn_paragraphAdd (List.forall_mem_nil _) hcontent _)

theorem Settled.beginBlocks (fuel depth : Nat) (h : d.Settled source) :
    (d.beginBlocks fuel depth c).Sound source := by
  induction fuel generalizing depth c d with
  | zero => exact h.1
  | succ fuel ih =>
    unfold Draft.beginBlocks
    split
    · rename_i s hs
      exact h.begins _ _ (hc.of_subset (start?_subset hs)) fun c e hc he => ih hc (depth + 1) he
    · split
      · exact h.1
      · exact h.openParagraph hc

theorem Settled.beginAt (h : d.Settled source) {s : Start} {place : Place}
    (hs : start? place c = some s) : (d.beginAt s c).Sound source :=
  h.begins _ _ (hc.of_subset (start?_subset hs)) fun _ _ hc he => he.beginBlocks hc _ _

theorem Sound.interrupt (h : d.Sound source) (left : Nat) : (d.interrupt left c).Sound source := by
  unfold Draft.interrupt
  split
  · rename_i s hs
    exact (h.close left).beginAt hc hs
  · split
    · exact (h.close left).1
    · split
      · -- the line goes on with a paragraph that it does not reach
        rename_i p hp
        obtain ⟨hleaf, hlines⟩ := drawn_paragraph? hp h.leaf
        exact h.withLeaf (h.outside hleaf)
          (drawn_paragraphAdd hlines (Cursor.drawnFrom_content hc) _)
      · exact (h.close left).openParagraph hc

section
variable (h : d.Sound source) (hlist : inList d.frames = false)
include h hlist

theorem Sound.continueParagraph {p : OpenParagraph}
    (hp : ∀ line ∈ p.lines, DrawnFrom source line) : (d.continueParagraph p c).Sound source := by
  have hcontent : DrawnFrom source c.skipBlanks.content :=
    Cursor.drawnFrom_content (hc.of_subset c.skipBlanks_suffix.subset)
  exact h.withLeaf hlist (drawn_paragraphAdd hp hcontent _)

theorem Sound.underline (level : Nat) {p : OpenParagraph}
    (hp : ∀ line ∈ p.lines, DrawnFrom source line) : (d.underline level p c).Sound source := by
  unfold Draft.underline
  dsimp only
  split
  · have hdefinitions : ({ d with definitions :=
        d.definitions ++ (Markdown.definitions (textOf p.lines)).1 } : Draft).Sound source :=
      ⟨h.frames, h.done, h.leaf, h.outside⟩
    exact hdefinitions.continueParagraph hc hlist (List.forall_mem_nil _)
  · exact ((h.withoutLeaf.withDefinitions _).add _ (fits_of_isTidy hlist rfl
      (drawn_heading level (drawnFrom_definitions hp)))).1

theorem Sound.tableOrText {p : OpenParagraph} (hp : ∀ line ∈ p.lines, DrawnFrom source line) :
    (d.tableOrText p c).Sound source := by
  unfold Draft.tableOrText
  split
  · exact h.continueParagraph hc hlist hp
  · split
    · exact h.continueParagraph hc hlist hp
    · rename_i preface t ht
      obtain ⟨hpreface, htable⟩ := drawn_table? hp ht
      dsimp only
      split
      · rename_i q
        have hadd := h.withoutLeaf.add (.paragraph q)
          (fits_of_isTidy hlist rfl (drawn_passage (hpreface q rfl)))
        refine hadd.1.withLeaf ?_ htable
        rw [inList_add]
        exact hlist
      · exact h.withLeaf hlist htable

theorem Sound.readParagraph (e : Options) {p : OpenParagraph}
    (hp : ∀ line ∈ p.lines, DrawnFrom source line) :
    (d.readParagraph e p c).Sound source := by
  unfold Draft.readParagraph
  split
  · exact h.underline hc hlist _ hp
  · split
    · rename_i s hs
      exact (h.close 0).beginAt hc hs
    · split
      · exact h.tableOrText hc hlist hp
      · exact h.continueParagraph hc hlist hp

theorem Sound.readRow {t : OpenTable} (ht : (Leaf.table t).Drawn source) {row : List Cell}
    (hrow : ∀ cell ∈ row, DrawnFrom source cell.text) : (d.readRow t row c).Sound source := by
  unfold Draft.readRow
  split
  · rename_i s hs
    exact (h.close 0).beginAt hc hs
  · split
    · exact (h.close 0).openParagraph hc
    · exact h.withLeaf hlist (drawn_tableAdd ht hrow _)

end

theorem Sound.readInside (h : d.Sound source) (e : Options) :
    (d.readInside e c).Sound source := by
  have hopen := h.outside
  have hdrawn := h.leaf
  unfold Draft.readInside
  split
  · exact h.interrupt hc 0
  all_goals
    rename_i heq
    have hlist : inList d.frames = false := hopen (by rw [heq]; exact Leaf.noConfusion)
    rw [heq] at hdrawn
  · split
    · exact h.interrupt hc 0
    · exact h.readParagraph hc hlist e hdrawn
  · split
    · exact h.closeLeaf.1
    · exact h.withLeaf hlist trivial
  · split
    · exact h.withLeaf hlist trivial
    · split
      · exact h.withLeaf hlist trivial
      · exact h.interrupt hc 0
  · split
    · exact h.interrupt hc 0
    · split
      · exact h.closeLeaf.1
      · exact h
  · have hrow : ∀ cell ∈ cells c.text, DrawnFrom source cell.text := fun cell hcell =>
      hc.of_subset (List.Subset.trans (cells_subset _ cell hcell) c.text_suffix.subset)
    dsimp only
    split
    · exact h.interrupt hc 0
    · exact h.readRow hc hlist hdrawn hrow

end

theorem Sound.read (h : d.Sound source) (e : Options) {line : List Char}
    (hline : DrawnFrom source line) : (d.read e line).Sound source := by
  have hcounted : ({ d with line := d.line + 1 } : Draft).Sound source :=
    ⟨h.frames, h.done, h.leaf, h.outside⟩
  have hreach : ∀ (hasInner first : Bool),
      DrawnFrom source (reach hasInner d.frames (Cursor.start first line)).cursor.rest :=
    fun _ _ => hline.of_subset ((reach_suffix _ _ _).trans (Cursor.start_suffix _ _)).subset
  unfold Draft.read
  dsimp only
  split
  · exact hcounted.readInside (hreach _ _) e
  · exact hcounted.interrupt (hreach _ _) _

theorem Sound.foldl_read (e : Options) (lines : List (List Char)) (h : d.Sound source)
    (hlines : ∀ line ∈ lines, DrawnFrom source line) :
    (lines.foldl (Draft.read e) d).Sound source := by
  induction lines generalizing d with
  | nil => exact h
  | cons line lines ih =>
    obtain ⟨hline, hrest⟩ := List.forall_mem_cons.1 hlines
    exact ih (h.read e hline) hrest

theorem sound_ofText (e : Options) (text : List Char) : (Draft.ofText e text).Sound text := by
  have hempty : ({} : Draft).Sound text :=
    ⟨trivial, List.forall_mem_nil _, trivial, fun hleaf => absurd rfl hleaf⟩
  have hread := hempty.foldl_read e (splitLines text) (drawnFrom_splitLines text)
  exact (hread.close _).1

theorem tidyIn_ofText (e : Options) (text : List Char) :
    tidyIn (Draft.ofText e text).done.reverse = true :=
  (tidyIn_iff _).2 fun b hb => ((sound_ofText e text).done b (List.mem_reverse.1 hb)).1

theorem drawnFrom_passagesIn (e : Options) (text : List Char) :
    ∀ p ∈ passagesIn (Draft.ofText e text).done.reverse, DrawnFrom text p.text := by
  intro p hp
  obtain ⟨b, hb, hmem⟩ := (mem_passagesIn p _).1 hp
  exact ((sound_ofText e text).done b (List.mem_reverse.1 hb)).2 p hmem

end Draft

end MarkdownToAdf.Markdown
