import MarkdownToAdf.Proofs.Markdown.Addresses
import MarkdownToAdf.Proofs.Markdown.Brackets

set_option autoImplicit false

/-!
# What a scan makes

A property of spans holds of all that are read in a passage if it holds of those that a single
step makes. Texts are made of characters, and only a reference puts down a line feed.
-/
namespace MarkdownToAdf.Markdown
open Text

/-- A property of characters and one of spans that hold of all that a single step makes, as
far as it makes it of characters and spans of which they hold. -/
structure Kept (e : Options) (ok : Char → Prop) (P : Span → Prop) : Prop where
  char : ∀ c, c ≠ '\n' → ok c
  text : ∀ s : String, P (.text s) ↔ ∀ c ∈ s.toList, ok c
  softBreak : P .softBreak
  hardBreak : P .hardBreak
  code : ∀ written, P (.code (String.ofList (cleanCode written)))
  html : ∀ literal, P (.html literal)
  emph : ∀ children, P (.emph children)
  strong : ∀ children, P (.strong children)
  strike : ∀ children children', e.strikethrough = true ∨ P (.strike children) →
    P (.strike children')
  link : ∀ destination position children, P (.link destination position children)
  image : ∀ destination children, P (.image destination children)
  other : ∀ kind children children', P (.other kind children) → P (.other kind children')

section
variable {e : Options} {ok : Char → Prop} {P : Span → Prop} (k : Kept e ok P)
include k

theorem Kept.ofList {text : List Char} (h : ∀ c ∈ text, ok c) : P (.text (String.ofList text)) :=
  (k.text _).2 (by rwa [String.toList_ofList])

theorem Kept.pairSpan {mark : Char} (h : mark = '~' → e.strikethrough = true) (width : Nat)
    (children : List Span) : P (pairSpan mark width children) := by
  unfold Markdown.pairSpan
  split
  · rename_i hmark
    exact k.strike children children (.inl (h hmark))
  · split
    · exact k.strong children
    · exact k.emph children

theorem Kept.address {a : Address} (h : ∀ c ∈ a.label, ok c) (position : Option Position) :
    (Piece.span (a.span position)).Keeps ok P := by
  unfold Address.span
  refine ⟨k.link _ _ _, ?_⟩
  split
  · trivial
  · exact ⟨k.ofList h, trivial⟩

theorem Kept.bracketChars (b : Bracket) : ∀ x ∈ b.chars, x.Keeps ok P := by
  have hopen : (Piece.char '[').Keeps ok P := k.char '[' (by decide)
  have hbang : (Piece.char '!').Keeps ok P := k.char '!' (by decide)
  unfold Bracket.chars
  split
  · exact List.forall_mem_cons.2 ⟨hopen, List.forall_mem_singleton.2 hbang⟩
  · exact List.forall_mem_singleton.2 hopen

theorem Kept.mailSpansFrom (skip : Nat) (depth : Int) (read text : List Char)
    (hread : ∀ c ∈ read, ok c) (htext : ∀ c ∈ text, ok c) :
    AllIn P (mailSpansFrom skip depth read text) := by
  have hreverse {read : List Char} (hread : ∀ c ∈ read, ok c) :
      P (.text (String.ofList read.reverse)) :=
    k.ofList fun c hc => hread c (List.mem_reverse.1 hc)
  fun_induction Markdown.mailSpansFrom skip depth read text with
  | case1 => trivial
  | case2 => exact ⟨hreverse hread, trivial⟩
  | case3 skip depth read c r ih => exact ih hread (List.forall_mem_cons.1 htext).2
  | case4 depth read c r depth' hno ih =>
    obtain ⟨hc, hr⟩ := List.forall_mem_cons.1 htext
    exact ih (List.forall_mem_cons.2 ⟨hc, hread⟩) hr
  | case5 depth read c r depth' a taken host hfound text ih =>
    obtain ⟨hc, hr⟩ := List.forall_mem_cons.1 htext
    have hlabel : ∀ c ∈ a.label, ok c := by
      intro c hc
      split at hfound
      · rcases mem_mailAddress hfound c hc with hc | rfl | hc
        · exact hread c hc
        · exact k.char '@' (by decide)
        · exact hr c hc
      · cases hfound
    refine (allIn_append _ _).2 ⟨?_, k.address hlabel none, ih (List.forall_mem_nil _) hr⟩
    split
    · trivial
    · exact ⟨hreverse fun c hc => hread c (List.mem_of_mem_drop hc), trivial⟩

end

section
variable {e : Options} {ok : Char → Prop} {P : Span → Prop}

mutual

theorem Kept.linkMail (k : Kept e ok P) : (s : Span) → s.All P → AllIn P s.linkMail
  | .text literal, h =>
    k.mailSpansFrom 0 0 [] literal.toList (List.forall_mem_nil _) ((k.text literal).1 h)
  | .emph children, h => ⟨⟨k.emph _, k.linkMailIn children h.2⟩, trivial⟩
  | .strong children, h => ⟨⟨k.strong _, k.linkMailIn children h.2⟩, trivial⟩
  | .strike children, h => ⟨⟨k.strike children _ (.inr h.1), k.linkMailIn children h.2⟩, trivial⟩
  | .softBreak, h | .hardBreak, h | .code _, h | .html _, h | .link _ _ _, h | .image _ _, h =>
    ⟨h, trivial⟩
  | .other kind children, h => ⟨⟨k.other kind children _ h.1, k.linkMailIn children h.2⟩, trivial⟩

theorem Kept.linkMailIn (k : Kept e ok P) :
    (spans : List Span) → AllIn P spans → AllIn P (linkMailIn spans)
  | [], _ => trivial
  | s :: r, h => (allIn_append _ _).2 ⟨k.linkMail s h.1, k.linkMailIn r h.2⟩

end

end

structure Scan.Keeps (ok : Char → Prop) (P : Span → Prop) (s : Scan) : Prop where
  pieces : ∀ x ∈ s.pieces, x.Keeps ok P
  brackets : ∀ b ∈ s.brackets, ∀ x ∈ b.before, x.Keeps ok P

namespace Scan
variable {e : Options} {ok : Char → Prop} {P : Span → Prop} {s : Scan}

theorem Keeps.push (h : s.Keeps ok P) (x : Piece) (hx : x.Keeps ok P) : (s.push x).Keeps ok P :=
  ⟨List.forall_mem_cons.2 ⟨hx, h.pieces⟩, h.brackets⟩

theorem Keeps.pushText (h : s.Keeps ok P) {text : List Char} (htext : ∀ c ∈ text, ok c) :
    (s.pushText text).Keeps ok P :=
  ⟨List.forall_mem_append.2
    ⟨keeps_chars fun c hc => htext c (List.mem_reverse.1 hc), h.pieces⟩, h.brackets⟩

theorem Keeps.step (h : s.Keeps ok P) (text rest : List Char) :
    (s.step text rest).scan.Keeps ok P :=
  ⟨h.pieces, h.brackets⟩

theorem keeps_readReference (h : s.Keeps ok P) (r : List Char) (hok : ∀ c, ok c) :
    (readReference s r).scan.Keeps ok P := by
  unfold readReference
  split
  · exact (h.pushText fun c _ => hok c).step _ _
  · exact (h.push (.char '&') (hok '&')).step _ _

theorem keeps_openBracket (h : s.Keeps ok P) (g : Setting) (image : Bool) (text rest : List Char) :
    (openBracket g image s text rest).scan.Keeps ok P := by
  unfold openBracket
  refine Keeps.step ⟨List.forall_mem_nil _, ?_⟩ _ _
  refine List.forall_mem_cons.2 ⟨h.pieces, ?_⟩
  have hbrackets := h.brackets
  split
  · exact List.forall_mem_nil _
  · rename_i b bs heq
    rw [heq] at hbrackets
    obtain ⟨hb, hbs⟩ := List.forall_mem_cons.1 hbrackets
    exact List.forall_mem_cons.2 ⟨hb, hbs⟩

section
variable (k : Kept e ok P) (h : s.Keeps ok P) (r : List Char)
include k h

theorem keeps_readBreak : (readBreak s r).scan.Keeps ok P := by
  have hpieces (hard : Bool) :
      ∀ x ∈ Piece.span (if hard then .hardBreak else .softBreak) :: s.pieces, x.Keeps ok P := by
    refine List.forall_mem_cons.2 ⟨?_, h.pieces⟩
    cases hard
    · exact k.softBreak
    · exact k.hardBreak
  unfold readBreak
  exact ⟨hpieces _, h.brackets⟩

theorem keeps_readText (g : Setting) {c : Char} (hc : c ≠ '\n') :
    (readText g s c r).scan.Keeps ok P := by
  have hactive : (!isActive g.options '\n') = false := rfl
  have htext : ∀ d ∈ c :: r.takeWhile fun d => !isActive g.options d, ok d := by
    refine List.forall_mem_cons.2 ⟨k.char c hc, fun d hd => k.char d ?_⟩
    rintro rfl
    exact not_mem_takeWhile hactive r hd
  have hend {text : List Char} (h : ∀ d ∈ text, ok d) : ∀ d ∈ trimEnd text, ok d := fun d hd =>
    h d (List.mem_reverse.1 ((List.dropWhile_suffix _).subset (List.mem_reverse.1 hd)))
  have hstart {text : List Char} (h : ∀ d ∈ text, ok d) : ∀ d ∈ trimStart text, ok d := fun d hd =>
    h d ((trimStart_suffix text).subset hd)
  unfold readText
  refine (h.pushText ?_).step _ _
  split <;> split
  · exact hstart (hend htext)
  · exact hstart htext
  · exact hend htext
  · exact htext

theorem keeps_readCode : (readCode s r).scan.Keeps ok P := by
  unfold readCode
  dsimp only
  split
  · exact (h.push (.span (.code _)) (k.code _)).step _ _
  · refine (h.pushText fun c hc => k.char c ?_).step _ _
    rw [List.eq_of_mem_replicate hc]
    decide

theorem keeps_readBackslash : (readBackslash s r).scan.Keeps ok P := by
  have hback : (Piece.char '\\').Keeps ok P := k.char '\\' (by decide)
  unfold readBackslash
  split
  · exact (h.push (.span .hardBreak) k.hardBreak).step _ _
  · split
    · rename_i c rest _ hpunct
      refine (h.push (.char c) (k.char c ?_)).step _ _
      rintro rfl
      exact absurd hpunct (by decide)
    · exact (h.push (.char '\\') hback).step _ _
  · exact (h.push (.char '\\') hback).step _ _

theorem keeps_readAngle (g : Setting) (hok : '&' ∈ r → ∀ c, ok c) :
    (readAngle g s r).scan.Keeps ok P := by
  unfold readAngle
  split
  · rename_i a rest haddress
    have hlabel : ∀ c ∈ a.label, ok c := by
      intro c hc
      by_cases hr : '&' ∈ r
      · exact hok hr c
      · refine k.char c ?_
        rintro rfl
        exact feed_not_mem_angleAddress hr haddress hc
    exact (h.push (.span _) (k.address hlabel _)).step _ _
  · have hmemory (memory : HtmlMemory) : ({ s with memory := memory } : Scan).Keeps ok P :=
      ⟨h.pieces, h.brackets⟩
    dsimp only
    split
    · exact ((hmemory _).push (.span (.html _)) (k.html _)).step _ _
    · exact ((hmemory _).push (.char '<') (k.char '<' (by decide))).step _ _

theorem keeps_readRun (g : Setting) {mark : Char} (hfeed : mark ≠ '\n')
    (hmark : mark = '~' → e.strikethrough = true) : (readRun g s mark r).scan.Keeps ok P := by
  unfold readRun
  exact (h.push (.run _) ⟨k.char mark hfeed, k.pairSpan hmark⟩).step _ _

theorem keeps_readWww : (readWww s r).scan.Keeps ok P := by
  unfold readWww
  split
  · rename_i a haddress
    split at haddress
    · cases haddress
    · have hlabel : ∀ c ∈ a.label, ok c := by
        refine fun c hc => k.char c ?_
        rintro rfl
        exact feed_not_mem_wwwAddress haddress hc
      exact (h.push (.span _) (k.address hlabel none)).step _ _
  · exact (h.push (.char 'w') (k.char 'w' (by decide))).step _ _

theorem keeps_readColon : (readColon s r).scan.Keeps ok P := by
  unfold readColon
  split
  · rename_i a haddress
    split at haddress
    · cases haddress
    · have hlabel : ∀ c ∈ a.label, ok c := by
        refine fun c hc => k.char c ?_
        rintro rfl
        exact feed_not_mem_schemeAddress haddress hc
      -- the letters of the scheme are taken back before the address is put down
      have hdropped (n : Nat) : ({ s with pieces := s.pieces.drop n } : Scan).Keeps ok P :=
        ⟨fun x hx => h.pieces x (List.mem_of_mem_drop hx), h.brackets⟩
      exact ((hdropped _).push (.span _) (k.address hlabel none)).step _ _
  · exact (h.push (.char ':') (k.char ':' (by decide))).step _ _

theorem keeps_dropBracket : s.dropBracket.Keeps ok P := by
  have hbrackets := h.brackets
  unfold Scan.dropBracket
  split
  · exact h
  · rename_i b bs heq
    rw [heq] at hbrackets
    obtain ⟨hb, hbs⟩ := List.forall_mem_cons.1 hbrackets
    refine ⟨?_, hbs⟩
    exact List.forall_mem_append.2
      ⟨List.forall_mem_append.2 ⟨h.pieces, k.bracketChars b⟩, hb⟩

theorem keeps_closeLink {b : Bracket} {bs : List Bracket} (heq : s.brackets = b :: bs)
    (t : Target) : (closeLink s b bs t).Keeps ok P := by
  have hbrackets := h.brackets
  rw [heq] at hbrackets
  obtain ⟨hb, hbs⟩ := List.forall_mem_cons.1 hbrackets
  have hchildren : AllIn P (pairRuns s.pieces.reverse) :=
    allIn_pairRuns_of_keeps (fun _ => k.ofList) _ fun x hx => h.pieces x (List.mem_reverse.1 hx)
  unfold closeLink
  refine ⟨List.forall_mem_cons.2 ⟨?_, hb⟩, hbs⟩
  cases b.image
  · exact ⟨k.link _ _ _, hchildren⟩
  · exact ⟨k.image _ _, hchildren⟩

theorem keeps_closeBracket (g : Setting) : (closeBracket g s r).scan.Keeps ok P := by
  have houtside : ({ s with inBrackets := false } : Scan).Keeps ok P := ⟨h.pieces, h.brackets⟩
  have hclose : (Piece.char ']').Keeps ok P := k.char ']' (by decide)
  have hplain := ((keeps_dropBracket k houtside).push (.char ']') hclose).step (']' :: r) r
  unfold closeBracket
  dsimp only
  split
  · exact hplain
  · rename_i b bs heq
    split
    · exact hplain
    · split
      · exact (keeps_closeLink k houtside heq _).step _ _
      · split
        · rename_i t rest room _
          have hroom : ({ s with inBrackets := false, room := room } : Scan).Keeps ok P :=
            ⟨h.pieces, h.brackets⟩
          exact (keeps_closeLink k hroom heq t).step _ _
        · exact hplain

theorem keeps_readBang (g : Setting) : (readBang g s r).scan.Keeps ok P := by
  have hbang : (Piece.char '!').Keeps ok P := k.char '!' (by decide)
  unfold readBang
  split
  · split
    · exact (h.push (.char '!') hbang).step _ _
    · exact keeps_openBracket h g true _ _
  · exact (h.push (.char '!') hbang).step _ _

end

section
variable (g : Setting) (k : Kept g.options ok P)
include k

theorem keeps_readNext (h : s.Keeps ok P) (c : Char) (r : List Char)
    (hok : '&' ∈ c :: r → ∀ d, ok d) : (readNext g s c r).scan.Keeps ok P := by
  unfold readNext
  split
  · exact keeps_readBreak k h r
  · exact keeps_readCode k h r
  · exact keeps_readBackslash k h r
  · exact keeps_readReference h r (hok (List.mem_cons_self ..))
  · exact keeps_readAngle k h r g fun hr => hok (List.mem_cons_of_mem _ hr)
  · exact keeps_openBracket h g false _ _
  · exact keeps_closeBracket k h r g
  · exact keeps_readBang k h r g
  · exact keeps_readRun k h r g (by decide) fun hmark => absurd hmark (by decide)
  · exact keeps_readRun k h r g (by decide) fun hmark => absurd hmark (by decide)
  · rename_i hfeed _ _ _ _ _ _ _ _ _
    split
    · rename_i htilde
      exact keeps_readRun k h r g (by decide) fun _ => htilde.2
    · split
      · exact keeps_readColon k h r
      · split
        · exact keeps_readWww k h r
        · exact keeps_readText k h r g hfeed

theorem keeps_scanFrom (skip : Nat) (text : List Char) (h : s.Keeps ok P)
    (hok : '&' ∈ text → ∀ c, ok c) : (scanFrom g skip s text).Keeps ok P := by
  fun_induction scanFrom g skip s text with
  | case1 => exact h
  | case2 skip s c r ih => exact ih h fun hr => hok (List.mem_cons_of_mem _ hr)
  | case3 s c r step ih =>
    exact ih (keeps_readNext g k h c r hok) fun hr => hok (List.mem_cons_of_mem _ hr)

end

end Scan

/-- What every step keeps holds of all spans of a passage, if the characters that references
stand for have the property too. -/
theorem allIn_readPassage {e : Options} {ok : Char → Prop} {P : Span → Prop} (k : Kept e ok P)
    (definitions : List Definition) (room : Nat) (p : Passage) (hok : '&' ∈ p.text → ∀ c, ok c) :
    AllIn P (readPassage e definitions room p).1 := by
  have hstart : ({ room := room } : Scan).Keeps ok P :=
    ⟨List.forall_mem_nil _, List.forall_mem_nil _⟩
  have htext : '&' ∈ trimEnd p.text → ∀ c, ok c := fun hmem =>
    hok (List.mem_reverse.1 ((List.dropWhile_suffix _).subset (List.mem_reverse.1 hmem)))
  have hend := Scan.keeps_scanFrom ⟨e, definitions, p⟩ k 0 (trimEnd p.text) hstart htext
  have hspans : AllIn P (pairRuns (scanFrom ⟨e, definitions, p⟩ 0 { room := room }
      (trimEnd p.text)).dropBrackets.reverse) := by
    refine allIn_pairRuns_of_keeps (fun _ => k.ofList) _ fun x hx => ?_
    exact Scan.forall_foldl_brackets k.bracketChars _ _ hend.brackets hend.pieces x
      (List.mem_reverse.1 hx)
  unfold readPassage
  dsimp only
  split
  · exact k.linkMailIn _ hspans
  · exact hspans

/-- Is this a span that the extensions allow? Only struck text needs one. -/
def Span.Allowed (e : Options) : Span → Prop
  | .strike _ => e.strikethrough = true
  | _ => True

theorem kept_allowed (e : Options) : Kept e (fun _ => True) (Span.Allowed e) where
  char _ _ := trivial
  text _ := ⟨fun _ _ _ => trivial, fun _ => trivial⟩
  softBreak := trivial
  hardBreak := trivial
  code _ := trivial
  html _ := trivial
  emph _ := trivial
  strong _ := trivial
  strike _ _ h := h.elim id id
  link _ _ _ := trivial
  image _ _ := trivial
  other _ _ _ _ := trivial

theorem allowed_readPassage (e : Options) (definitions : List Definition) (room : Nat)
    (p : Passage) : AllIn (Span.Allowed e) (readPassage e definitions room p).1 :=
  allIn_readPassage (kept_allowed e) definitions room p fun _ _ => trivial

def Span.OnLine : Span → Prop
  | .text literal | .code literal => '\n' ∉ literal.toList
  | _ => True

theorem feed_not_mem_cleanCode (written : List Char) : '\n' ∉ cleanCode written := by
  have htext : '\n' ∉ written.map fun c => if c = '\n' then ' ' else c := by
    intro hmem
    obtain ⟨c, -, heq⟩ := List.mem_map.1 hmem
    split at heq
    · exact absurd heq (by decide)
    · contradiction
  unfold cleanCode
  dsimp only
  split
  · exact fun hmem => htext (List.mem_of_mem_drop (List.dropLast_subset _ hmem))
  · exact htext

theorem kept_onLine (e : Options) : Kept e (fun c => c ≠ '\n') Span.OnLine where
  char _ h := h
  text s := ⟨fun h c hc heq => h (heq ▸ hc), fun h hmem => h '\n' hmem rfl⟩
  softBreak := trivial
  hardBreak := trivial
  code written := by
    rw [Span.OnLine, String.toList_ofList]
    exact feed_not_mem_cleanCode written
  html _ := trivial
  emph _ := trivial
  strong _ := trivial
  strike _ _ _ := trivial
  link _ _ _ := trivial
  image _ _ := trivial
  other _ _ _ _ := trivial

/-- Line ends are spans of their own, so without references no text holds a line feed. -/
theorem onLine_readPassage (e : Options) (definitions : List Definition) (room : Nat)
    {p : Passage} (hp : '&' ∉ p.text) : AllIn Span.OnLine (readPassage e definitions room p).1 :=
  allIn_readPassage (kept_onLine e) definitions room p fun hmem => absurd hmem hp

end MarkdownToAdf.Markdown
