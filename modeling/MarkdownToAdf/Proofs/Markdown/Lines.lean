import MarkdownToAdf.Markdown.Line

set_option autoImplicit false

/-!
# Lines and their ends

A text is cut into the same lines however these end and whether or not U+0000 was replaced before,
and lines that are put together again with line feeds give the text back.
-/
namespace MarkdownToAdf.Markdown

/-- The line ends that may stand in the place of a line feed. -/
inductive LineEnd where
  | cr
  | crlf
  deriving DecidableEq, Repr

def LineEnd.chars : LineEnd → List Char
  | cr => ['\r']
  | crlf => ['\r', '\n']

def LineEnd.writeChar (e : LineEnd) (c : Char) : List Char :=
  if c = '\n' then e.chars else [c]

def LineEnd.write (e : LineEnd) (text : List Char) : List Char :=
  text.flatMap e.writeChar

namespace LineEnd

theorem write_feed (e : LineEnd) (text : List Char) :
    e.write ('\n' :: text) = e.chars ++ e.write text := rfl

theorem write_cons (e : LineEnd) {c : Char} (h : c ≠ '\n') (text : List Char) :
    e.write (c :: text) = c :: e.write text := by
  rw [write, List.flatMap_cons, writeChar, if_neg h]
  rfl

end LineEnd

theorem splitLines_cons {c : Char} (hfeed : c ≠ '\n') (hreturn : c ≠ '\r') (text : List Char) :
    splitLines (c :: text) = extendFirst (replaceNull c) (splitLines text) := by
  rw [splitLines]
  · exact hfeed
  · exact fun r hc _ => hreturn hc
  · exact hreturn

theorem splitLines_return {text : List Char} (h : text.head? ≠ some '\n') :
    splitLines ('\r' :: text) = [] :: splitLines text := by
  rw [splitLines]
  rintro r rfl
  exact h rfl

theorem head?_write_cr (text : List Char) : (LineEnd.cr.write text).head? ≠ some '\n' := by
  cases text with
  | nil => exact nofun
  | cons c r =>
    by_cases hc : c = '\n'
    · rw [hc, LineEnd.write_feed, LineEnd.chars, List.singleton_append, List.head?_cons]
      decide
    · rw [LineEnd.write_cons _ hc]
      exact fun h => hc (Option.some.inj h)

theorem splitLines_chars_write (e : LineEnd) (text : List Char) :
    splitLines (e.chars ++ e.write text) = [] :: splitLines (e.write text) := by
  cases e with
  | cr => exact splitLines_return (head?_write_cr text)
  | crlf => rw [LineEnd.chars, List.cons_append, List.singleton_append, splitLines]

/-- The lines of a text do not depend on how they end. -/
theorem splitLines_write (e : LineEnd) {text : List Char} (h : '\r' ∉ text) :
    splitLines (e.write text) = splitLines text := by
  induction text with
  | nil => rfl
  | cons c r ih =>
    have hr := ih (List.not_mem_of_not_mem_cons h)
    have hreturn : c ≠ '\r' := fun hc => h (hc ▸ List.mem_cons_self ..)
    by_cases hfeed : c = '\n'
    · rw [hfeed, LineEnd.write_feed, splitLines_chars_write, hr, splitLines]
    · rw [LineEnd.write_cons e hfeed, splitLines_cons hfeed hreturn, hr,
        splitLines_cons hfeed hreturn]

theorem replaceNull_eq_iff {d : Char} (hnull : d ≠ '\x00') (hreplaced : d ≠ '\ufffd') (c : Char) :
    replaceNull c = d ↔ c = d := by
  unfold replaceNull
  split
  · rename_i hc
    rw [hc]
    exact iff_of_false hreplaced.symm hnull.symm
  · rfl

theorem replaceNull_replaceNull (c : Char) : replaceNull (replaceNull c) = replaceNull c := by
  by_cases hc : c = '\x00'
  · rw [hc]
    decide
  · have hkept : replaceNull c = c := if_neg hc
    rw [hkept, hkept]

theorem splitLines_map_replaceNull (text : List Char) :
    splitLines (text.map replaceNull) = splitLines text := by
  have hfeed := replaceNull_eq_iff (d := '\n') (by decide) (by decide)
  have hreturn := replaceNull_eq_iff (d := '\r') (by decide) (by decide)
  fun_induction splitLines text with
  | case1 => rfl
  | case2 r ih =>
    rw [List.map_cons, (hfeed '\n').2 rfl, splitLines, ih]
  | case3 r ih =>
    rw [List.map_cons, List.map_cons, (hreturn '\r').2 rfl, (hfeed '\n').2 rfl, splitLines, ih]
  | case4 r hr ih =>
    have hhead : (r.map replaceNull).head? ≠ some '\n' := by
      cases r with
      | nil => exact nofun
      | cons c r => exact fun h => hr r (by rw [(hfeed c).1 (Option.some.inj h)])
    rw [List.map_cons, (hreturn '\r').2 rfl, splitLines_return hhead, ih]
  | case5 c r hc _ hc' ih =>
    rw [List.map_cons, splitLines_cons (mt (hfeed c).1 hc) (mt (hreturn c).1 hc'), ih,
      replaceNull_replaceNull]

def IsClean (text : List Char) : Prop :=
  ∀ c ∈ text, c ≠ '\r' ∧ c ≠ '\x00'

/-- A text up to a line feed is some whole lines, which give the text back. -/
theorem splitLines_append_feed {text : List Char} (h : IsClean text) (rest : List Char) :
    ∃ lines, splitLines (text ++ '\n' :: rest) = lines ++ splitLines rest ∧
      lines.flatMap (· ++ ['\n']) = text ++ ['\n'] ∧ ∀ line ∈ lines, line ⊆ text := by
  induction text with
  | nil => exact ⟨[[]], by rw [List.nil_append, splitLines]; rfl, rfl, by simp⟩
  | cons c text ih =>
    obtain ⟨⟨hreturn, hnull⟩, htext⟩ := List.forall_mem_cons.1 h
    obtain ⟨lines, hsplit, hflat, hsub⟩ := ih htext
    have hsub' : ∀ line ∈ lines, line ⊆ c :: text := fun line hline =>
      List.subset_cons_of_subset c (hsub line hline)
    by_cases hfeed : c = '\n'
    · subst hfeed
      refine ⟨[] :: lines, ?_, ?_, List.forall_mem_cons.2 ⟨List.nil_subset _, hsub'⟩⟩
      · rw [List.cons_append, splitLines, hsplit]
        rfl
      · rw [List.flatMap_cons, hflat]
        rfl
    · have hreplace : replaceNull c = c := if_neg hnull
      -- there is a first line for the character to stand in front of
      cases lines with
      | nil => simp at hflat
      | cons line lines =>
        obtain ⟨hline, hlines⟩ := List.forall_mem_cons.1 hsub'
        refine ⟨(c :: line) :: lines, ?_, ?_,
          List.forall_mem_cons.2 ⟨List.cons_subset.2 ⟨List.mem_cons_self .., hline⟩, hlines⟩⟩
        · rw [List.cons_append, splitLines_cons hfeed hreturn, hsplit, hreplace]
          rfl
        · rw [List.flatMap_cons, List.cons_append, List.cons_append, List.cons_append, ← hflat,
            List.flatMap_cons]

theorem splitLines_line {line : List Char} (h : IsClean line) (hfeed : '\n' ∉ line)
    (rest : List Char) : splitLines (line ++ '\n' :: rest) = line :: splitLines rest := by
  induction line with
  | nil => rw [List.nil_append, splitLines]
  | cons c line ih =>
    obtain ⟨⟨hreturn, hnull⟩, hline⟩ := List.forall_mem_cons.1 h
    have hc : c ≠ '\n' := fun heq => hfeed (heq ▸ List.mem_cons_self ..)
    have hreplace : replaceNull c = c := if_neg hnull
    rw [List.cons_append, splitLines_cons hc hreturn, ih hline (List.not_mem_of_not_mem_cons hfeed),
      hreplace]
    rfl

end MarkdownToAdf.Markdown
