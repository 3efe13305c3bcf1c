import MarkdownToAdf.Markdown.Phrasing
import MarkdownToAdf.Proofs.Markdown.Pairing
import MarkdownToAdf.Proofs.Markdown.Remainder

set_option autoImplicit false

/-!
# Links begin at brackets

In a passage without `<`, and with bare addresses left alone, every link begins at an opening
bracket. The position that is kept of it counts the bytes from the last line end that counts;
line ends that a step takes along with other characters do not.
-/
namespace MarkdownToAdf.Markdown
open Text

/-- Some of the line ends among the characters read, which are given latest first, count: how
many they are, and the bytes up to the last one. -/
inductive Counted : List Char → Nat → Nat → Prop
  | start : Counted [] 0 0
  | pass {seen : List Char} {breaks start : Nat} (c : Char) (h : Counted seen breaks start) :
    Counted (c :: seen) breaks start
  | count {seen : List Char} {breaks start : Nat} (h : Counted seen breaks start) :
    Counted ('\n' :: seen) (breaks + 1) (byteLength seen + 1)

theorem Counted.append {seen : List Char} {breaks start : Nat} (h : Counted seen breaks start)
    (more : List Char) : Counted (more ++ seen) breaks start := by
  induction more with
  | nil => exact h
  | cons c r ih => exact .pass c ih

/-- Is this the position of an opening bracket of the passage, as far as its line ends count? -/
def Passage.OpensAt (p : Passage) (position : Option Position) : Prop :=
  ∃ before behind breaks start, trimEnd p.text = before.reverse ++ '[' :: behind ∧
    Counted before breaks start ∧
    position = some ⟨p.line + breaks, byteLength before + 1 - start + p.offsets.getD breaks 0⟩

def Passage.Opens (p : Passage) : Span → Prop
  | .link _ position _ => p.OpensAt position
  | _ => True

/-- What was put aside for a bracket holds no other links, and a bracket that is no image has
the position of one. -/
def Bracket.Sound (p : Passage) (b : Bracket) : Prop :=
  (∀ x ∈ b.before, x.All p.Opens) ∧ (b.image = false → p.OpensAt (some b.position))

/-- A scan has read the passage up to what is left of it, and has found links at brackets only. -/
structure Scan.Faithful (p : Passage) (s : Scan) (rest : List Char) : Prop where
  read : trimEnd p.text = s.seen.reverse ++ rest
  bytes : s.bytes = byteLength s.seen
  pieces : ∀ x ∈ s.pieces, x.All p.Opens
  brackets : ∀ b ∈ s.brackets, b.Sound p

structure Scan.Sound (p : Passage) (s : Scan) (rest : List Char) : Prop
    extends s.Faithful p rest where
  counted : Counted s.seen s.breaks s.lineStart

def Step.Sound (p : Passage) (r : List Char) (t : Step) : Prop :=
  t.scan.Sound p (r.drop t.more)

theorem opens_pairSpan (p : Passage) (mark : Char) (width : Nat) (children : List Span) :
    p.Opens (pairSpan mark width children) := by
  unfold pairSpan
  split
  · trivial
  · split <;> trivial

theorem all_pushed {P : Span → Prop} (text : List Char) {pieces : List Piece}
    (h : ∀ x ∈ pieces, x.All P) : ∀ x ∈ text.reverse.map Piece.char ++ pieces, x.All P := by
  refine List.forall_mem_append.2 ⟨all_chars _ fun x hx => ?_, h⟩
  obtain ⟨c, -, rfl⟩ := List.mem_map.1 hx
  exact ⟨c, rfl⟩

theorem byteLength_reverse_append (a b : List Char) :
    byteLength (a.reverse ++ b) = byteLength b + byteLength a := by
  induction a generalizing b with
  | nil => rfl
  | cons c a ih =>
    rw [List.reverse_cons, List.append_assoc, ih, List.singleton_append]
    simp only [byteLength]
    omega

namespace Scan
variable {p : Passage} {s : Scan} {c : Char} {r rest : List Char}

theorem Faithful.pushed (h : s.Faithful p rest) {pieces : List Piece}
    (hpieces : ∀ x ∈ pieces, x.All p.Opens) :
    ({ s with pieces := pieces } : Scan).Faithful p rest :=
  ⟨h.read, h.bytes, hpieces, h.brackets⟩

theorem Faithful.step (h : s.Faithful p (c :: r))
    (hcounted : Counted (c :: s.seen) s.breaks s.lineStart) (hrest : rest.length ≤ r.length) :
    (s.step (c :: r) rest).Sound p r := by
  have hlength : (c :: r).length - rest.length = r.length - rest.length + 1 := by
    rw [List.length_cons]
    omega
  have htaken : upTo (c :: r) rest = c :: r.take (r.length - rest.length) := by
    unfold upTo
    rw [hlength, List.take_succ_cons]
  unfold Step.Sound Scan.step Scan.advance
  dsimp only
  rw [htaken, hlength, Nat.add_sub_cancel]
  have hseen : (c :: r.take (r.length - rest.length)).reverse ++ s.seen =
      (r.take (r.length - rest.length)).reverse ++ c :: s.seen := by
    rw [List.reverse_cons, List.append_assoc, List.singleton_append]
  refine ⟨⟨?_, ?_, h.pieces, h.brackets⟩, ?_⟩
  · dsimp only
    rw [h.read, List.reverse_append, List.reverse_reverse, List.append_assoc, List.cons_append,
      List.take_append_drop]
  · dsimp only
    rw [byteLength_reverse_append, h.bytes]
  · dsimp only
    rw [hseen]
    exact hcounted.append _

theorem Sound.step (h : s.Sound p (c :: r)) (hrest : rest.length ≤ r.length) :
    (s.step (c :: r) rest).Sound p r :=
  h.toFaithful.step (.pass c h.counted) hrest

theorem Sound.pushed (h : s.Sound p rest) {pieces : List Piece}
    (hpieces : ∀ x ∈ pieces, x.All p.Opens) :
    ({ s with pieces := pieces } : Scan).Sound p rest :=
  ⟨h.toFaithful.pushed hpieces, h.counted⟩

theorem Sound.push (h : s.Sound p rest) (x : Piece) (hx : x.All p.Opens) :
    (s.push x).Sound p rest :=
  h.pushed (List.forall_mem_cons.2 ⟨hx, h.pieces⟩)

theorem Sound.pushText (h : s.Sound p rest) (text : List Char) : (s.pushText text).Sound p rest :=
  h.pushed (all_pushed text h.pieces)

theorem sound_readBreak (h : s.Sound p ('\n' :: r)) : (readBreak s r).Sound p r := by
  have hpieces : ∀ (hard : Bool),
      ∀ x ∈ Piece.span (if hard then .hardBreak else .softBreak) :: s.pieces, x.All p.Opens := by
    intro hard
    refine List.forall_mem_cons.2 ⟨?_, h.pieces⟩
    cases hard <;> trivial
  unfold readBreak
  refine Faithful.step ⟨h.read, h.bytes, hpieces _, h.brackets⟩ ?_ (skipBlanks_suffix r).length_le
  have hcounted := h.counted.count
  rw [← h.bytes] at hcounted
  exact hcounted

theorem sound_readText (g : Setting) (h : s.Sound p (c :: r)) : (readText g s c r).Sound p r := by
  unfold readText
  exact (h.pushText _).step (List.dropWhile_suffix _).length_le

theorem sound_readCode (h : s.Sound p ('\x60' :: r)) : (readCode s r).Sound p r := by
  have hbehind : (r.dropWhile (· == '\x60')).length ≤ r.length :=
    (List.dropWhile_suffix _).length_le
  unfold readCode
  dsimp only
  split
  · refine (h.push (.span (.code _)) trivial).step ?_
    rw [List.length_drop]
    omega
  · exact (h.pushText _).step hbehind

theorem sound_readBackslash (h : s.Sound p ('\\' :: r)) : (readBackslash s r).Sound p r := by
  unfold readBackslash
  split
  · exact (h.push (.span .hardBreak) trivial).step (List.suffix_cons _ _).length_le
  · split
    · exact (h.push (.char _) trivial).step (List.suffix_cons _ _).length_le
    · exact (h.push (.char '\\') trivial).step (Nat.le_refl _)
  · exact (h.push (.char '\\') trivial).step (Nat.le_refl _)

theorem sound_readReference (h : s.Sound p ('&' :: r)) : (readReference s r).Sound p r := by
  unfold readReference
  split
  · exact (h.pushText _).step (List.drop_suffix _ _).length_le
  · exact (h.push (.char '&') trivial).step (Nat.le_refl _)

theorem sound_readRun (g : Setting) (mark : Char) (h : s.Sound p (mark :: r)) :
    (readRun g s mark r).Sound p r := by
  unfold readRun
  exact (h.push (.run _) fun width children => opens_pairSpan p mark width children).step
    (List.dropWhile_suffix _).length_le

theorem sound_openBracket {g : Setting} (image : Bool)
    (h : s.Sound g.passage (c :: r)) (hopens : image = false → c = '[')
    (hrest : rest.length ≤ r.length) :
    (openBracket g image s (c :: r) rest).Sound g.passage r := by
  have hposition : image = false → g.passage.OpensAt (some (s.position g)) := by
    intro himage
    obtain rfl := hopens himage
    refine ⟨s.seen, r, s.breaks, s.lineStart, h.read, h.counted, ?_⟩
    unfold Scan.position
    rw [h.bytes]
  unfold openBracket
  refine Sound.step ⟨⟨h.read, h.bytes, List.forall_mem_nil _, ?_⟩, h.counted⟩ hrest
  refine List.forall_mem_cons.2 ⟨⟨h.pieces, hposition⟩, ?_⟩
  have hbrackets := h.brackets
  split
  · exact List.forall_mem_nil _
  · rename_i b bs heq
    rw [heq] at hbrackets
    obtain ⟨hb, hbs⟩ := List.forall_mem_cons.1 hbrackets
    exact List.forall_mem_cons.2 ⟨hb, hbs⟩

theorem all_bracketChars {P : Span → Prop} (b : Bracket) : ∀ x ∈ b.chars, x.All P := by
  unfold Bracket.chars
  split
  · exact List.forall_mem_cons.2 ⟨trivial, List.forall_mem_singleton.2 trivial⟩
  · exact List.forall_mem_singleton.2 trivial

theorem Sound.dropBracket (h : s.Sound p rest) : s.dropBracket.Sound p rest := by
  have hbrackets := h.brackets
  unfold Scan.dropBracket
  split
  · exact h
  · rename_i b bs heq
    rw [heq] at hbrackets
    obtain ⟨hb, hbs⟩ := List.forall_mem_cons.1 hbrackets
    refine ⟨⟨h.read, h.bytes, ?_, hbs⟩, h.counted⟩
    exact List.forall_mem_append.2
      ⟨List.forall_mem_append.2 ⟨h.pieces, all_bracketChars b⟩, hb.1⟩

theorem Sound.closeLink (h : s.Sound p rest) {b : Bracket} {bs : List Bracket}
    (heq : s.brackets = b :: bs) (t : Target) : (closeLink s b bs t).Sound p rest := by
  have hbrackets := h.brackets
  rw [heq] at hbrackets
  obtain ⟨hb, hbs⟩ := List.forall_mem_cons.1 hbrackets
  have hchildren : AllIn p.Opens (pairRuns s.pieces.reverse) :=
    allIn_pairRuns (fun _ => trivial) _ fun x hx => h.pieces x (List.mem_reverse.1 hx)
  unfold Markdown.closeLink
  refine ⟨⟨h.read, h.bytes, List.forall_mem_cons.2 ⟨?_, hb.1⟩, hbs⟩, h.counted⟩
  cases himage : b.image with
  | true => exact ⟨trivial, hchildren⟩
  | false => exact ⟨hb.2 himage, hchildren⟩

theorem referenceTarget?_length {g : Setting} {b : Bracket} {t : Target} {room : Nat}
    (h : referenceTarget? g s b r = some (t, rest, room)) : rest.length ≤ r.length := by
  have hown : ((label? r).getD ([], r)).2.length ≤ r.length := by
    cases hlabel : label? r with
    | none => exact Nat.le_refl _
    | some own => exact (label?_suffix hlabel).length_le
  unfold referenceTarget? at h
  dsimp only at h
  split at h
  · split at h
    · cases h
    · cases h
      exact hown
  · cases h

theorem sound_closeBracket (g : Setting) (h : s.Sound p (']' :: r)) :
    (closeBracket g s r).Sound p r := by
  have houtside : ({ s with inBrackets := false } : Scan).Sound p (']' :: r) :=
    ⟨⟨h.read, h.bytes, h.pieces, h.brackets⟩, h.counted⟩
  have hplain := (houtside.dropBracket.push (.char ']') trivial).step (Nat.le_refl _)
  unfold closeBracket
  dsimp only
  split
  · exact hplain
  · rename_i b bs heq
    split
    · exact hplain
    · split
      · rename_i t rest htarget
        exact (houtside.closeLink heq t).step (inlineTarget?_suffix htarget).length_le
      · split
        · rename_i t rest room htarget
          have hroom : ({ s with inBrackets := false, room := room } : Scan).Sound p (']' :: r) :=
            ⟨⟨h.read, h.bytes, h.pieces, h.brackets⟩, h.counted⟩
          exact (hroom.closeLink heq t).step (referenceTarget?_length htarget)
        · exact hplain

theorem sound_readBang {g : Setting} (h : s.Sound g.passage ('!' :: r)) :
    (readBang g s r).Sound g.passage r := by
  unfold readBang
  split
  · split
    · exact (h.push (.char '!') trivial).step (Nat.le_refl _)
    · exact sound_openBracket true h Bool.noConfusion (List.suffix_cons _ _).length_le
  · exact (h.push (.char '!') trivial).step (Nat.le_refl _)

section
variable {g : Setting} (hbare : g.options.autolink = false)
include hbare

theorem sound_readNext (h : s.Sound g.passage (c :: r)) (hc : c ≠ '<') :
    (readNext g s c r).Sound g.passage r := by
  unfold readNext
  split
  · exact sound_readBreak h
  · exact sound_readCode h
  · exact sound_readBackslash h
  · exact sound_readReference h
  · exact absurd rfl hc
  · exact sound_openBracket false h (fun _ => rfl) (Nat.le_refl _)
  · exact sound_closeBracket g h
  · exact sound_readBang h
  · exact sound_readRun g '*' h
  · exact sound_readRun g '_' h
  · simp only [hbare, Bool.false_eq_true, and_false, if_false]
    split
    · rename_i htilde
      rw [htilde.1] at h
      exact sound_readRun g '~' h
    · exact sound_readText g h

theorem sound_scanFrom (skip : Nat) (text : List Char) (htext : '<' ∉ text)
    (h : s.Sound g.passage (text.drop skip)) : (scanFrom g skip s text).Sound g.passage [] := by
  fun_induction scanFrom g skip s text with
  | case1 skip s => rwa [List.drop_nil] at h
  | case2 skip s c r ih => exact ih (List.not_mem_of_not_mem_cons htext) h
  | case3 s c r step ih =>
    have hc : c ≠ '<' := fun heq => htext (heq ▸ List.mem_cons_self ..)
    exact ih (List.not_mem_of_not_mem_cons htext) (sound_readNext hbare h hc)

end

theorem forall_foldl_brackets {Q : Piece → Prop} (hchars : ∀ b : Bracket, ∀ x ∈ b.chars, Q x)
    (brackets : List Bracket) (pieces : List Piece)
    (hbrackets : ∀ b ∈ brackets, ∀ x ∈ b.before, Q x) (hpieces : ∀ x ∈ pieces, Q x) :
    ∀ x ∈ brackets.foldl (fun pieces b => pieces ++ b.chars ++ b.before) pieces, Q x := by
  induction brackets generalizing pieces with
  | nil => exact hpieces
  | cons b bs ih =>
    obtain ⟨hb, hbs⟩ := List.forall_mem_cons.1 hbrackets
    exact ih _ hbs (List.forall_mem_append.2 ⟨List.forall_mem_append.2 ⟨hpieces, hchars b⟩, hb⟩)

theorem all_dropBrackets (h : s.Sound p rest) : ∀ x ∈ s.dropBrackets, x.All p.Opens :=
  forall_foldl_brackets all_bracketChars s.brackets s.pieces (fun b hb => (h.brackets b hb).1)
    h.pieces

end Scan

theorem opens_readPassage {e : Options} (hbare : e.autolink = false)
    (definitions : List Definition) (room : Nat) (p : Passage) (hp : '<' ∉ p.text) :
    AllIn p.Opens (readPassage e definitions room p).1 := by
  have hstart : ({ room := room } : Scan).Sound p (trimEnd p.text) :=
    ⟨⟨rfl, rfl, List.forall_mem_nil _, List.forall_mem_nil _⟩, .start⟩
  have htext : '<' ∉ trimEnd p.text := fun hmem =>
    hp (List.mem_reverse.1 ((List.dropWhile_suffix _).subset (List.mem_reverse.1 hmem)))
  have hend := Scan.sound_scanFrom (g := ⟨e, definitions, p⟩) hbare 0 _ htext hstart
  unfold readPassage
  simp only [hbare, Bool.false_eq_true, if_false]
  exact allIn_pairRuns (fun _ => trivial) _ fun x hx =>
    Scan.all_dropBrackets hend x (List.mem_reverse.1 hx)

end MarkdownToAdf.Markdown
