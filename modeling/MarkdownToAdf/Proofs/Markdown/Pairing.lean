import MarkdownToAdf.Markdown.Emphasis

set_option autoImplicit false

/-!
# What pairing keeps

Pairing runs of delimiters makes new spans around old ones and takes none apart. What holds of
all spans before, and of each span that a run at hand may make, holds of all spans afterwards.
-/
namespace MarkdownToAdf.Markdown

mutual

def Span.All (P : Span → Prop) : Span → Prop
  | .text literal => P (.text literal)
  | .softBreak => P .softBreak
  | .hardBreak => P .hardBreak
  | .code literal => P (.code literal)
  | .html literal => P (.html literal)
  | .emph children => P (.emph children) ∧ AllIn P children
  | .strong children => P (.strong children) ∧ AllIn P children
  | .strike children => P (.strike children) ∧ AllIn P children
  | .link destination position children =>
    P (.link destination position children) ∧ AllIn P children
  | .image destination children => P (.image destination children) ∧ AllIn P children
  | .other kind children => P (.other kind children) ∧ AllIn P children

def AllIn (P : Span → Prop) : List Span → Prop
  | [] => True
  | s :: r => s.All P ∧ AllIn P r

end

/-- A run has to make a fit span whatever stands between it and its partner. -/
def Piece.All (P : Span → Prop) : Piece → Prop
  | .char _ => True
  | .run r => ∀ width children, P (pairSpan r.mark width children)
  | .span s => s.All P

/-- The same, and the characters that may become text have a property of their own. -/
def Piece.Keeps (ok : Char → Prop) (P : Span → Prop) : Piece → Prop
  | .char c => ok c
  | .run r => ok r.mark ∧ ∀ width children, P (pairSpan r.mark width children)
  | .span s => s.All P

section
variable {P : Span → Prop}

theorem allIn_append (a b : List Span) : AllIn P (a ++ b) ↔ AllIn P a ∧ AllIn P b := by
  induction a with
  | nil => exact ⟨fun h => ⟨trivial, h⟩, fun h => h.2⟩
  | cons s a ih => rw [List.cons_append, AllIn, AllIn, ih, and_assoc]

theorem all_pairSpan (mark : Char) (width : Nat) (children : List Span)
    (h : P (pairSpan mark width children)) (hchildren : AllIn P children) :
    (pairSpan mark width children).All P := by
  unfold pairSpan at h ⊢
  split
  · rw [if_pos ‹_›] at h
    exact ⟨h, hchildren⟩
  · rw [if_neg ‹_›] at h
    split
    · rw [if_pos ‹_›] at h
      exact ⟨h, hchildren⟩
    · rw [if_neg ‹_›] at h
      exact ⟨h, hchildren⟩

theorem all_chars (l : List Piece) (h : ∀ x ∈ l, ∃ c, x = .char c) : ∀ x ∈ l, x.All P := by
  intro x hx
  obtain ⟨c, rfl⟩ := h x hx
  trivial

theorem Piece.keeps_true_iff (x : Piece) : x.Keeps (fun _ => True) P ↔ x.All P := by
  cases x with
  | run r => exact and_iff_right trivial
  | _ => rfl

section
variable {ok : Char → Prop}

theorem keeps_chars {text : List Char} (h : ∀ c ∈ text, ok c) :
    ∀ x ∈ text.map Piece.char, x.Keeps ok P :=
  List.forall_mem_map.2 h

theorem keeps_runChars {r : Run} (h : ok r.mark) : ∀ x ∈ r.chars, x.Keeps ok P := by
  intro x hx
  rw [List.eq_of_mem_replicate hx]
  exact h

theorem keeps_rest (r : Run) (used : Nat) (h : (Piece.run r).Keeps ok P) :
    ∀ x ∈ r.rest used, x.Keeps ok P := by
  unfold Run.rest
  split
  · exact List.forall_mem_nil _
  · exact List.forall_mem_singleton.2 h

theorem keeps_findOpener (floor : Nat) (closer : Run) (between before : List Piece) (o : Opener)
    (ho : findOpener floor closer between before = some o)
    (hbetween : ∀ x ∈ between, x.Keeps ok P) (hbefore : ∀ x ∈ before, x.Keeps ok P) :
    (∀ x ∈ o.between, x.Keeps ok P) ∧ (Piece.run o.run).Keeps ok P ∧
      ∀ x ∈ o.before, x.Keeps ok P := by
  fun_induction findOpener floor closer between before with
  | case1 => cases ho
  | case2 => cases ho
  | case3 between r before hfloor hopens =>
    cases ho
    obtain ⟨hr, hrest⟩ := List.forall_mem_cons.1 hbefore
    exact ⟨hbetween, hr, hrest⟩
  | case4 between r before hfloor hopens ih =>
    obtain ⟨hr, hrest⟩ := List.forall_mem_cons.1 hbefore
    exact ih ho (List.forall_mem_cons.2 ⟨hr, hbetween⟩) hrest
  | case5 between x before hno ih =>
    obtain ⟨hx, hrest⟩ := List.forall_mem_cons.1 hbefore
    exact ih ho (List.forall_mem_cons.2 ⟨hx, hbetween⟩) hrest

section
variable (htext : ∀ literal : List Char, (∀ c ∈ literal, ok c) → P (.text (String.ofList literal)))
include htext

theorem allIn_textSpan {literal : List Char} (h : ∀ c ∈ literal, ok c) :
    AllIn P (textSpan literal) := by
  unfold textSpan
  split
  · trivial
  · exact ⟨htext literal h, trivial⟩

theorem allIn_spansFrom {read : List Char} {pieces : List Piece} (hread : ∀ c ∈ read, ok c)
    (h : ∀ x ∈ pieces, x.Keeps ok P) : AllIn P (spansFrom read pieces) := by
  have hreverse {read : List Char} (hread : ∀ c ∈ read, ok c) : ∀ c ∈ read.reverse, ok c :=
    fun c hc => hread c (List.mem_reverse.1 hc)
  induction pieces generalizing read with
  | nil => exact allIn_textSpan htext (hreverse hread)
  | cons x r ih =>
    obtain ⟨hx, hr⟩ := List.forall_mem_cons.1 h
    cases x with
    | char c => exact ih (List.forall_mem_cons.2 ⟨hx, hread⟩) hr
    | run d =>
      refine ih (List.forall_mem_append.2 ⟨fun c hc => ?_, hread⟩) hr
      rw [List.eq_of_mem_replicate hc]
      exact hx.1
    | span s =>
      exact (allIn_append _ _).2
        ⟨allIn_textSpan htext (hreverse hread), hx, ih (List.forall_mem_nil _) hr⟩

theorem keeps_close (fuel : Nat) (closer : Run) (p : Pairing)
    (hcloser : (Piece.run closer).Keeps ok P) (h : ∀ x ∈ p.before, x.Keeps ok P) :
    ∀ x ∈ (p.close fuel closer).before, x.Keeps ok P := by
  induction fuel generalizing closer p with
  | zero => exact h
  | succ fuel ih =>
    unfold Pairing.close
    split
    · dsimp only
      split
      · exact List.forall_mem_cons.2 ⟨hcloser, h⟩
      · exact List.forall_mem_append.2 ⟨keeps_runChars hcloser.1, h⟩
    · rename_i o ho
      obtain ⟨hbetween, hrun, hbefore⟩ :=
        keeps_findOpener _ closer [] p.before o ho (List.forall_mem_nil _) h
      dsimp only
      split
      · exact List.forall_mem_cons.2 ⟨hcloser, h⟩
      · have hspan : (Piece.span (pairSpan closer.mark (pairWidth o.run closer)
            (spansOf o.between))).Keeps ok P :=
          all_pairSpan _ _ _ (hcloser.2 _ _)
            (allIn_spansFrom htext (List.forall_mem_nil _) hbetween)
        have hpaired := List.forall_mem_cons.2 ⟨hspan,
          List.forall_mem_append.2 ⟨keeps_rest o.run (pairWidth o.run closer) hrun, hbefore⟩⟩
        split
        · exact hpaired
        · exact ih _ _ hcloser hpaired

theorem keeps_step (p : Pairing) (x : Piece) (hx : x.Keeps ok P)
    (h : ∀ y ∈ p.before, y.Keeps ok P) : ∀ y ∈ (p.step x).before, y.Keeps ok P := by
  cases x with
  | char c => exact List.forall_mem_cons.2 ⟨hx, h⟩
  | span s => exact List.forall_mem_cons.2 ⟨hx, h⟩
  | run r =>
    unfold Pairing.step
    dsimp only
    split
    · exact keeps_close htext _ r p hx h
    · exact List.forall_mem_cons.2 ⟨hx, h⟩

theorem keeps_foldl_step (pieces : List Piece) (p : Pairing)
    (hpieces : ∀ x ∈ pieces, x.Keeps ok P) (h : ∀ y ∈ p.before, y.Keeps ok P) :
    ∀ y ∈ (pieces.foldl Pairing.step p).before, y.Keeps ok P := by
  induction pieces generalizing p with
  | nil => exact h
  | cons x r ih =>
    obtain ⟨hx, hr⟩ := List.forall_mem_cons.1 hpieces
    exact ih _ hr (keeps_step htext p x hx h)

theorem allIn_pairRuns_of_keeps (pieces : List Piece) (h : ∀ x ∈ pieces, x.Keeps ok P) :
    AllIn P (pairRuns pieces) := by
  refine allIn_spansFrom htext (List.forall_mem_nil _) fun x hx => ?_
  exact keeps_foldl_step htext pieces ⟨[], [], false⟩ h (List.forall_mem_nil _) x
    (List.mem_reverse.1 hx)

end

end

theorem allIn_pairRuns (htext : ∀ literal, P (.text literal)) (pieces : List Piece)
    (h : ∀ x ∈ pieces, x.All P) : AllIn P (pairRuns pieces) :=
  allIn_pairRuns_of_keeps (fun literal (_ : ∀ c ∈ literal, True) => htext _) pieces fun x hx =>
    x.keeps_true_iff.2 (h x hx)

end

end MarkdownToAdf.Markdown
