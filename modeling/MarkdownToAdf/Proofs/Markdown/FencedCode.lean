import MarkdownToAdf.Markdown.Reading
import MarkdownToAdf.Proofs.Markdown.Lines

set_option autoImplicit false

/-!
# Fenced code

Between its fences a block of code takes every line as it stands. A fence of three backticks is
not closed before the next backtick, so what has none comes back whole.
-/
namespace MarkdownToAdf.Markdown
open Text

def tick : Char := '\x60'

def tickFence : Fence := ⟨tick, 3, 0⟩

theorem runLength_of_not_mem {c : Char} {text : List Char} (h : c ∉ text) :
    runLength c text = 0 := by
  cases text with
  | nil => rfl
  | cons d r =>
    have hd : d ≠ c := fun heq => h (heq ▸ List.mem_cons_self ..)
    simp [runLength, hd]

theorem closes_of_not_mem {text : List Char} (h : tick ∉ text) : tickFence.closes text = false := by
  have hrun : runLength tick text = 0 := runLength_of_not_mem h
  simp [Fence.closes, tickFence, hrun]

theorem openFence?_ticks {word : List Char} (h : tick ∉ word) :
    openFence? 0 (tick :: tick :: tick :: word) = some tickFence := by
  have hrun : runLength tick (tick :: tick :: tick :: word) = 3 := by
    have hword := runLength_of_not_mem h
    simp only [runLength] at hword ⊢
    simp [hword]
  simp only [openFence?, hrun]
  simp [tick, tickFence] at h ⊢
  exact h

theorem start_of_not_first (line : List Char) : Cursor.start false line = ⟨line, 0, 0, false⟩ := by
  unfold Cursor.start
  split <;> rfl

theorem start?_ticks {word : List Char} (h : tick ∉ word) :
    start? {} ⟨tick :: tick :: tick :: word, 0, 0, false⟩ =
      some (.fence tickFence ⟨word, 3, 3, false⟩) := by
  have hopen := openFence?_ticks h
  have hindent : (Cursor.mk (tick :: tick :: tick :: word) 0 0 false).isIndented = false := rfl
  have htext : (Cursor.mk (tick :: tick :: tick :: word) 0 0 false).text =
      tick :: tick :: tick :: word := rfl
  have hheading : headingLevel? (tick :: tick :: tick :: word) = none := rfl
  have hskip : (Cursor.mk (tick :: tick :: tick :: word) 0 0 false).skipBlanks =
      ⟨tick :: tick :: tick :: word, 0, 0, false⟩ := rfl
  simp only [start?, hindent, Start.ofText, htext, hheading, hskip, Nat.sub_self, hopen]
  rfl

namespace Draft

theorem read_opening (e : Options) {word : List Char} (h : tick ∉ word) :
    Draft.read e {} (tick :: tick :: tick :: word) =
      { leaf := .fenced tickFence [word], line := 1 } := by
  have hcursor : Cursor.start true (tick :: tick :: tick :: word) =
      ⟨tick :: tick :: tick :: word, 0, 0, false⟩ := rfl
  have hstart := start?_ticks h
  simp only [Draft.read, beq_self_eq_true, hcursor, reach, if_pos, Draft.readInside, interrupt,
    Leaf.paragraph?, Option.isSome_none, hstart]
  rfl

theorem read_inside (e : Options) (k : Nat) (lines : List (List Char)) {line : List Char}
    (h : tick ∉ line) :
    Draft.read e { leaf := .fenced tickFence lines, line := k + 1 } line =
      { leaf := .fenced tickFence (line :: lines), line := k + 2 } := by
  have htext : tick ∉ line.dropWhile isSpaceOrTab := fun hmem =>
    h ((List.dropWhile_suffix _).subset hmem)
  have hcursor : Cursor.start (k + 1 == 0) line = ⟨line, 0, 0, false⟩ := start_of_not_first line
  have hcloses : tickFence.closes (Cursor.text ⟨line, 0, 0, false⟩) = false :=
    closes_of_not_mem htext
  have hindent (n : Nat) : min tickFence.indent n = 0 := Nat.zero_min n
  have hskip : Cursor.skipColumns 0 ⟨line, 0, 0, false⟩ = ⟨line, 0, 0, false⟩ := by
    rw [Cursor.skipColumns, skipFrom]
  simp only [Draft.read, hcursor, reach, if_pos, Draft.readInside, hcloses, Bool.and_false, hindent,
    hskip]
  rfl

theorem read_closing (e : Options) (k : Nat) (lines : List (List Char)) :
    Draft.read e { leaf := .fenced tickFence lines, line := k + 1 } [tick, tick, tick] =
      { done := [.code (fencedBlock lines)], line := k + 2 } := by
  have hcursor : Cursor.start (k + 1 == 0) [tick, tick, tick] = ⟨[tick, tick, tick], 0, 0, false⟩ :=
    rfl
  simp only [Draft.read, hcursor, reach, if_pos, Draft.readInside]
  rfl

theorem foldl_read_inside (e : Options) (lines : List (List Char)) (k : Nat)
    (taken : List (List Char)) (h : ∀ line ∈ lines, tick ∉ line) :
    lines.foldl (Draft.read e) { leaf := .fenced tickFence taken, line := k + 1 } =
      { leaf := .fenced tickFence (lines.reverse ++ taken), line := k + 1 + lines.length } := by
  induction lines generalizing k taken with
  | nil => rfl
  | cons line lines ih =>
    obtain ⟨hline, hlines⟩ := List.forall_mem_cons.1 h
    rw [List.foldl_cons, read_inside e k taken hline, ih (k + 1) _ hlines, List.reverse_cons,
      List.append_assoc, List.length_cons, List.singleton_append]
    congr 1
    omega

/-- A fenced block that is the whole text holds its info string and every line of its body. -/
theorem done_fenced (e : Options) {word body : List Char} (hword : IsClean word)
    (hline : '\n' ∉ word) (hwordTick : tick ∉ word) (hbody : IsClean body) (hbodyTick : tick ∉ body) :
    (Draft.ofText e
        (tick :: tick :: tick :: (word ++ '\n' :: (body ++ '\n' :: [tick, tick, tick])))).done =
      [.code ⟨true, String.ofList (unescape (trim (decodeReferences word))),
        String.ofList (body ++ ['\n'])⟩] := by
  obtain ⟨lines, hsplit, hflat, hsub⟩ := splitLines_append_feed hbody [tick, tick, tick]
  have hlines : ∀ line ∈ lines, tick ∉ line := fun line hmem htick =>
    hbodyTick (hsub line hmem htick)
  have hopening : IsClean (tick :: tick :: tick :: word) ∧ '\n' ∉ tick :: tick :: tick :: word := by
    have htick : tick ≠ '\r' ∧ tick ≠ '\x00' ∧ '\n' ≠ tick := by decide
    refine ⟨?_, by simp [htick.2.2, hline]⟩
    exact List.forall_mem_cons.2 ⟨⟨htick.1, htick.2.1⟩, List.forall_mem_cons.2
      ⟨⟨htick.1, htick.2.1⟩, List.forall_mem_cons.2 ⟨⟨htick.1, htick.2.1⟩, hword⟩⟩⟩
  have hclosing : splitLines [tick, tick, tick] = [[tick, tick, tick]] := by decide
  -- the text is the opening line, the lines of the body and the closing line
  have hall := splitLines_line hopening.1 hopening.2 (body ++ '\n' :: [tick, tick, tick])
  rw [hsplit, hclosing] at hall
  unfold Draft.ofText
  rw [← List.cons_append, ← List.cons_append, ← List.cons_append, hall, List.foldl_cons,
    read_opening e hwordTick, List.foldl_append, foldl_read_inside e lines 0 [word] hlines,
    List.foldl_cons, List.foldl_nil, Nat.add_right_comm, read_closing]
  have hblock : fencedBlock (lines.reverse ++ [word]) =
      ⟨true, String.ofList (unescape (trim (decodeReferences word))),
        String.ofList (body ++ ['\n'])⟩ := by
    simp [fencedBlock, hflat]
  rw [hblock]
  rfl

end Draft

end MarkdownToAdf.Markdown
