import MarkdownToAdf.Markdown.Reading
import MarkdownToAdf.Proofs.Markdown.Lines

set_option autoImplicit false

/-!
# Texts of one line

A line that begins no block and no definition is a paragraph, and if it is the whole text then
that paragraph is the whole outline.
-/
namespace MarkdownToAdf.Markdown
open Text

theorem splitLines_single {line : List Char} (h : IsClean line) (hfeed : '\n' ∉ line)
    (hne : line ≠ []) : splitLines line = [line] := by
  induction line with
  | nil => exact absurd rfl hne
  | cons c r ih =>
    obtain ⟨⟨hreturn, hnull⟩, hr⟩ := List.forall_mem_cons.1 h
    have hc : c ≠ '\n' := fun heq => hfeed (heq ▸ List.mem_cons_self ..)
    have hreplace : replaceNull c = c := if_neg hnull
    rw [splitLines_cons hc hreturn, hreplace]
    by_cases hnil : r = []
    · rw [hnil]
      rfl
    · rw [ih hr (List.not_mem_of_not_mem_cons hfeed) hnil]
      rfl

/-- A character that may stand first in a line and does not begin a block by itself. An angle
bracket may still begin raw HTML. -/
def IsInnocent (c : Char) : Prop :=
  c.isDigit = false ∧
    c ∉ [' ', '\t', '\n', '\ufeff', '>', '#', '~', '\x60', '*', '_', '-', '+']

instance (c : Char) : Decidable (IsInnocent c) :=
  inferInstanceAs (Decidable (_ ∧ _))

section
variable {c : Char} (hc : IsInnocent c)
include hc

theorem IsInnocent.ne {d : Char}
    (hd : d ∈ [' ', '\t', '\n', '\ufeff', '>', '#', '~', '\x60', '*', '_', '-', '+']) : c ≠ d :=
  fun heq => hc.2 (heq ▸ hd)

theorem IsInnocent.isSpaceOrTab : isSpaceOrTab c = false := by
  have hspace : c ≠ ' ' := hc.ne (by decide)
  have htab : c ≠ '\t' := hc.ne (by decide)
  simp [Text.isSpaceOrTab, hspace, htab]

theorem start_innocent (first : Bool) (r : List Char) :
    Cursor.start first (c :: r) = ⟨c :: r, 0, 0, false⟩ := by
  have hmark : c ≠ '\ufeff' := hc.ne (by decide)
  unfold Cursor.start
  split
  · rename_i heq
    exact absurd (List.cons.inj heq).1 hmark
  · rfl

theorem text_innocent (r : List Char) : Cursor.text ⟨c :: r, 0, 0, false⟩ = c :: r := by
  unfold Cursor.text
  exact List.dropWhile_cons_of_neg (Bool.eq_false_iff.1 hc.isSpaceOrTab)

theorem indent_innocent (r : List Char) : Cursor.indent ⟨c :: r, 0, 0, false⟩ = 0 := by
  have hspace : c ≠ ' ' := hc.ne (by decide)
  have htab : c ≠ '\t' := hc.ne (by decide)
  unfold Cursor.indent blankWidth
  split
  · rename_i heq
    exact absurd (List.cons.inj heq).1 hspace
  · rename_i heq
    exact absurd (List.cons.inj heq).1 htab
  · rfl

theorem skipBlanks_innocent (r : List Char) :
    Cursor.skipBlanks ⟨c :: r, 0, 0, false⟩ = ⟨c :: r, 0, 0, false⟩ := by
  rw [Cursor.skipBlanks, indent_innocent hc, Cursor.skipColumns, skipFrom]

theorem ofMarker_innocent (r : List Char) : Start.ofMarker {} ⟨c :: r, 0, 0, false⟩ = none := by
  have hstar : c ≠ '*' := hc.ne (by decide)
  have hunder : c ≠ '_' := hc.ne (by decide)
  have hhyphen : c ≠ '-' := hc.ne (by decide)
  have hplus : c ≠ '+' := hc.ne (by decide)
  have hrule : isRule (c :: r) = false := by simp [isRule, hstar, hunder, hhyphen]
  have hmarker : listMarker? false (c :: r) = none := by
    simp [listMarker?, hstar, hhyphen, hplus, hc.1]
  rw [Start.ofMarker, text_innocent hc, hrule]
  simp [hmarker]

theorem start?_innocent {r : List Char} (hhtml : htmlBlock? false (c :: r) = none) :
    start? {} ⟨c :: r, 0, 0, false⟩ = none := by
  have hquote : (c :: r).head? ≠ some '>' := fun h => hc.ne (by decide) (Option.some.inj h)
  have hheading : headingLevel? (c :: r) = none := by
    have hnumber : c ≠ '#' := hc.ne (by decide)
    simp [headingLevel?, runLength, hnumber]
  have hfence (indent : Nat) : openFence? indent (c :: r) = none := by
    have htilde : c ≠ '~' := hc.ne (by decide)
    have htick : c ≠ '\x60' := hc.ne (by decide)
    simp [openFence?, htilde, htick]
  have hindented : Cursor.isIndented ⟨c :: r, 0, 0, false⟩ = false := by
    rw [Cursor.isIndented, indent_innocent hc]
    rfl
  have htext : Start.ofText {} ⟨c :: r, 0, 0, false⟩ = none := by
    rw [Start.ofText, text_innocent hc, if_neg hquote, hheading]
    dsimp only
    rw [hfence]
    dsimp only
    rw [hhtml]
    exact ofMarker_innocent hc r
  rw [start?, hindented]
  exact htext

theorem isBlankText_innocent (r : List Char) : isBlankText (c :: r) = false := by
  have hfeed : c ≠ '\n' := hc.ne (by decide)
  simp [isBlankText, hc.isSpaceOrTab, hfeed]

theorem read_innocent (e : Options) {r : List Char} (hhtml : htmlBlock? false (c :: r) = none) :
    Draft.read e {} (c :: r) =
      { leaf := .paragraph ⟨1, 0, [c :: r ++ ['\n']], [0], false⟩, line := 1 } := by
  have hstart := start?_innocent hc hhtml
  have hblank : Cursor.isBlank ⟨c :: r, 0, 0, false⟩ = false := by
    rw [Cursor.isBlank, text_innocent hc]
    rfl
  rw [Draft.read]
  simp only [beq_self_eq_true, start_innocent hc, reach, if_pos, Draft.readInside, Draft.interrupt,
    Leaf.paragraph?, Option.isSome_none, hstart, hblank]
  simp only [Draft.close, Draft.closeLeaf, Draft.openParagraph, Draft.leaveList,
    skipBlanks_innocent hc]
  rfl

theorem closeLeaf_innocent {r : List Char} (hdefinition : definition? (c :: r ++ ['\n']) = none) :
    Draft.closeLeaf { leaf := .paragraph ⟨1, 0, [c :: r ++ ['\n']], [0], false⟩, line := 1 } =
      { done := [.paragraph ⟨c :: r ++ ['\n'], 1, [0]⟩], line := 1 } := by
  have htext : textOf [c :: r ++ ['\n']] = c :: r ++ ['\n'] := by simp [textOf]
  have hdefinitions : definitions (c :: r ++ ['\n']) = ([], c :: r ++ ['\n']) := by
    rw [definitions, List.cons_append, List.length_cons, definitionsFrom, ← List.cons_append,
      hdefinition]
  have hblank : isBlankText (c :: r ++ ['\n']) = false := isBlankText_innocent hc _
  simp only [Draft.closeLeaf, htext, hdefinitions, hblank]
  rfl

/-- A single line that begins neither a block nor a definition is the paragraph of its text. -/
theorem ofText_innocent (e : Options) {r : List Char} (hvisible : ∀ d ∈ c :: r, ' ' ≤ d)
    (hhtml : htmlBlock? false (c :: r) = none)
    (hdefinition : definition? (c :: r ++ ['\n']) = none) :
    Draft.ofText e (c :: r) = { done := [.paragraph ⟨c :: r ++ ['\n'], 1, [0]⟩], line := 1 } := by
  have hclean : IsClean (c :: r) := by
    intro d hd
    have hspace := hvisible d hd
    constructor
    · rintro rfl
      exact absurd hspace (by decide)
    · rintro rfl
      exact absurd hspace (by decide)
  have hfeed : '\n' ∉ c :: r := fun hmem => absurd (hvisible _ hmem) (by decide)
  have hlines := splitLines_single hclean hfeed (List.cons_ne_nil c r)
  rw [Draft.ofText, hlines, List.foldl_cons, List.foldl_nil, read_innocent hc e hhtml]
  exact closeLeaf_innocent hc hdefinition

end

end MarkdownToAdf.Markdown
