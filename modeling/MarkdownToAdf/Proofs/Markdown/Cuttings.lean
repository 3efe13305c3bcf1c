import MarkdownToAdf.Markdown.Reading
import MarkdownToAdf.Proofs.Markdown.Lines
import MarkdownToAdf.Proofs.Markdown.Remainder

set_option autoImplicit false

/-!
# What lines are cut into

The parts of a line that go into passages are drawn from the text: reading markers, cutting
cells and trimming take characters away, tabs that are read in part become spaces, and U+0000
is replaced. No other character comes in.
-/
namespace MarkdownToAdf.Markdown
open Text

def DrawnFrom (source text : List Char) : Prop :=
  ∀ c ∈ text, c ∈ source ∨ c ∈ [' ', '\n', '\ufffd']

theorem trimEnd_subset (text : List Char) : trimEnd text ⊆ text := fun _ hc =>
  List.mem_reverse.1 ((List.dropWhile_suffix _).subset (List.mem_reverse.1 hc))

theorem trim_subset (text : List Char) : trim text ⊆ text :=
  List.Subset.trans (trimEnd_subset _) (trimStart_suffix text).subset

theorem unescapePipes_sublist (text : List Char) : (unescapePipes text).Sublist text := by
  fun_induction unescapePipes text with
  | case1 r ih => exact (ih.cons_cons '|').cons '\\'
  | case2 c r _ ih => exact ih.cons_cons c
  | case3 => exact List.Sublist.slnil

section
variable {source a b : List Char}

theorem DrawnFrom.of_subset (h : DrawnFrom source b) (hab : a ⊆ b) : DrawnFrom source a :=
  fun c hc => h c (hab hc)

theorem DrawnFrom.mono (h : DrawnFrom a b) (ha : a ⊆ source) : DrawnFrom source b :=
  fun c hc => (h c hc).imp_left fun hmem => ha hmem

theorem DrawnFrom.append (ha : DrawnFrom source a) (hb : DrawnFrom source b) :
    DrawnFrom source (a ++ b) :=
  List.forall_mem_append.2 ⟨ha, hb⟩

theorem drawnFrom_lineFeed : DrawnFrom source ['\n'] :=
  List.forall_mem_singleton.2 (.inr (by decide))

theorem drawnFrom_spaces (n : Nat) : DrawnFrom source (List.replicate n ' ') := by
  intro c hc
  rw [List.eq_of_mem_replicate hc]
  exact .inr (by decide)

end

theorem drawnFrom_replaceNull (c : Char) (text : List Char) :
    DrawnFrom (c :: text) [replaceNull c] := by
  refine List.forall_mem_singleton.2 ?_
  unfold replaceNull
  split
  · exact .inr (by decide)
  · exact .inl (List.mem_cons_self ..)

theorem drawnFrom_splitLines (text : List Char) :
    ∀ line ∈ splitLines text, DrawnFrom text line := by
  have hlineEnd : ∀ {r text : List Char}, r ⊆ text → (∀ line ∈ splitLines r, DrawnFrom r line) →
      ∀ line ∈ [] :: splitLines r, DrawnFrom text line := fun hr ih =>
    List.forall_mem_cons.2 ⟨List.forall_mem_nil _, fun line hline => (ih line hline).mono hr⟩
  fun_induction splitLines text with
  | case1 => exact List.forall_mem_nil _
  | case2 r ih | case4 r _ ih => exact hlineEnd (List.subset_cons_self _ _) ih
  | case3 r ih =>
    exact hlineEnd (List.Subset.trans (List.subset_cons_self _ _) (List.subset_cons_self _ _)) ih
  | case5 c r _ _ _ ih =>
    have hr : ∀ line ∈ splitLines r, DrawnFrom (c :: r) line := fun line hline =>
      (ih line hline).mono (List.subset_cons_self _ _)
    have hc := drawnFrom_replaceNull c r
    cases hlines : splitLines r with
    | nil => exact List.forall_mem_singleton.2 hc
    | cons l ls =>
      rw [hlines] at hr
      obtain ⟨hl, hls⟩ := List.forall_mem_cons.1 hr
      exact List.forall_mem_cons.2 ⟨hc.append hl, hls⟩

theorem skipFrom_suffix (n column offset : Nat) (inTab : Bool) (r : List Char) :
    (skipFrom n column offset inTab r).rest <:+ r := by
  fun_induction skipFrom n column offset inTab r with
  | case1 | case2 | case3 => exact List.suffix_refl _
  | case4 _ _ _ _ _ _ ih | case5 _ _ _ _ _ _ _ ih => exact suffix_cons_of_suffix ih _

namespace Cursor
variable (c : Cursor)

theorem skipColumns_suffix (n : Nat) : (c.skipColumns n).rest <:+ c.rest :=
  skipFrom_suffix n _ _ _ _

theorem skipBlanks_suffix : c.skipBlanks.rest <:+ c.rest :=
  c.skipColumns_suffix _

theorem skipChars_suffix (n : Nat) : (c.skipChars n).rest <:+ c.rest :=
  List.drop_suffix _ _

theorem skipOneBlank_suffix : c.skipOneBlank.rest <:+ c.rest := by
  unfold skipOneBlank
  split
  · exact c.skipColumns_suffix 1
  · exact List.suffix_refl _

theorem behindQuote_suffix : c.behindQuote.rest <:+ c.rest :=
  ((skipOneBlank_suffix _).trans (skipChars_suffix _ 1)).trans c.skipBlanks_suffix

theorem text_suffix : c.text <:+ c.rest :=
  List.dropWhile_suffix _

theorem drawnFrom_content {source : List Char} {c : Cursor} (h : DrawnFrom source c.rest) :
    DrawnFrom source c.content := by
  unfold content
  split
  · exact (drawnFrom_spaces _).append (h.of_subset (List.drop_subset _ _))
  · exact h

theorem start_suffix (first : Bool) (line : List Char) : (start first line).rest <:+ line := by
  unfold start
  split
  · split
    · exact List.suffix_cons _ _
    · exact List.suffix_refl _
  · exact List.suffix_refl _

end Cursor

theorem enter?_suffix {hasChild : Bool} {c inside : Cursor} {container : Container}
    (h : container.enter? hasChild c = some inside) : inside.rest <:+ c.rest := by
  unfold Container.enter? at h
  split at h
  · split at h
    · cases h
      exact c.behindQuote_suffix
    · cases h
  · cases h
    exact List.suffix_refl _
  · split at h
    · cases h
      exact c.skipColumns_suffix _
    · split at h
      · cases h
        exact c.skipBlanks_suffix
      · cases h

theorem reach_suffix (hasInner : Bool) (frames : List Frame) (c : Cursor) :
    (reach hasInner frames c).cursor.rest <:+ c.rest := by
  fun_induction reach hasInner frames c with
  | case1 => exact List.suffix_refl _
  | case2 _ _ _ _ r _ inside hinside ih => exact (enter?_suffix hinside).trans ih
  | case3 _ _ _ _ _ _ _ ih | case4 _ _ _ _ _ _ ih => exact ih

theorem cellOf_subset (read : List Char) (offset : Nat) : (cellOf read offset).text ⊆ read :=
  fun _ hc => List.mem_reverse.1 ((unescapePipes_sublist _).subset (trim_subset _ hc))

theorem cellsFrom_subset (here offset : Nat) (read : List Char) (behindPipe : Bool)
    (line : List Char) :
    ∀ cell ∈ cellsFrom here offset read behindPipe line, cell.text ⊆ read ++ line := by
  have hbehind : ∀ (read : List Char) (c : Char) (r : List Char), [] ++ r ⊆ read ++ c :: r :=
    fun read c r => List.Subset.trans (List.subset_cons_self c r) (List.subset_append_right _ _)
  fun_induction cellsFrom here offset read behindPipe line with
  | case1 => exact List.forall_mem_nil _
  | case2 here offset read =>
    rw [List.append_nil]
    exact List.forall_mem_singleton.2 (cellOf_subset read offset)
  | case3 _ _ read _ c r _ ih =>
    exact fun cell hcell => List.Subset.trans (ih cell hcell) (hbehind read c r)
  | case4 _ offset read _ c r _ _ ih =>
    refine List.forall_mem_cons.2 ⟨?_, fun cell hcell =>
      List.Subset.trans (ih cell hcell) (hbehind read c r)⟩
    exact List.Subset.trans (cellOf_subset read offset) (List.subset_append_left _ _)
  | case5 _ _ read _ c r _ _ ih =>
    refine fun cell hcell => List.Subset.trans (ih cell hcell) ?_
    exact fun x hx => List.perm_middle.symm.subset hx

theorem cells_subset (line : List Char) : ∀ cell ∈ cells line, cell.text ⊆ line := by
  unfold cells
  split
  · exact fun cell hcell =>
      List.Subset.trans (cellsFrom_subset 1 1 [] true _ cell hcell) (List.subset_cons_self _ _)
  · exact cellsFrom_subset 0 0 [] false line

theorem headingText_subset (text : List Char) : headingText text ⊆ text := by
  have htrim : ∀ {t : List Char}, t <:+ (trimEnd text).reverse → t.reverse ⊆ text := fun ht _ hc =>
    trimEnd_subset text (List.mem_reverse.1 (ht.subset (List.mem_reverse.1 hc)))
  unfold headingText
  dsimp only
  split
  · exact List.nil_subset _
  · split
    · exact htrim ((List.dropWhile_suffix _).trans (List.dropWhile_suffix _))
    · exact htrim (List.suffix_refl _)

theorem itemContent_suffix (indent : Nat) (m : ListMarker) (c : Cursor) :
    (itemContent indent m c).2.rest <:+ c.rest := by
  have hmarker : (c.skipBlanks.skipChars m.length).rest <:+ c.rest :=
    (Cursor.skipChars_suffix _ _).trans c.skipBlanks_suffix
  unfold itemContent
  dsimp only
  split
  · exact (Cursor.skipColumns_suffix _ _).trans hmarker
  · exact (Cursor.skipOneBlank_suffix _).trans hmarker

/-- What a block that begins may take of its line into a passage. -/
def Start.taken : Start → List Char
  | .quote behind => behind.rest
  | .item _ _ behind => behind.rest
  | .heading _ text _ => text
  | .fence _ _ | .html _ _ | .rule | .code _ => []

theorem ofMarker_subset {place : Place} {c : Cursor} {s : Start}
    (h : Start.ofMarker place c = some s) : s.taken ⊆ c.rest := by
  unfold Start.ofMarker at h
  split at h
  · cases h
    exact List.nil_subset _
  · split at h
    · cases h
    · obtain ⟨m, -, rfl⟩ := Option.map_eq_some_iff.1 h
      exact (itemContent_suffix c.indent m c).subset

theorem ofText_subset {place : Place} {c : Cursor} {s : Start}
    (h : Start.ofText place c = some s) : s.taken ⊆ c.rest := by
  unfold Start.ofText at h
  dsimp only at h
  split at h
  · cases h
    exact c.behindQuote_suffix.subset
  · split at h
    · rename_i level _
      cases h
      have hbehind : (((c.skipBlanks).skipChars level).skipBlanks).rest <:+ c.rest :=
        ((Cursor.skipBlanks_suffix _).trans (Cursor.skipChars_suffix _ level)).trans
          c.skipBlanks_suffix
      exact List.Subset.trans (headingText_subset _) hbehind.subset
    · split at h
      · cases h
        exact List.nil_subset _
      · split at h
        · cases h
          exact List.nil_subset _
        · exact ofMarker_subset h

theorem start?_subset {place : Place} {c : Cursor} {s : Start} (h : start? place c = some s) :
    s.taken ⊆ c.rest := by
  unfold start? at h
  split at h
  · exact ofText_subset h
  · split at h
    · cases h
    · cases h
      exact List.nil_subset _

end MarkdownToAdf.Markdown
