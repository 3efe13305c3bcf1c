import MarkdownToAdf.Markdown.Phrasing
import MarkdownToAdf.Proofs.Text.Literal

set_option autoImplicit false

/-!
# Links that are written out

Text in which no character means anything to Markdown is read character by character inside
brackets, comes back as the destination behind them, and is an address between angle brackets
if it begins with a scheme.
-/
namespace MarkdownToAdf.Markdown
open Text

def linkMarks : List Char :=
  ['!', '&', '(', ')', '*', '<', '>', '[', '\\', ']', '_', '\x60', '~']

/-- A visible character that means nothing in a link. -/
def IsQuiet (c : Char) : Prop :=
  0x20 < c.toNat ∧ c.toNat ≠ 0x7F ∧ c ∉ linkMarks

instance (c : Char) : Decidable (IsQuiet c) :=
  inferInstanceAs (Decidable (_ ∧ _ ∧ _))

section
variable {c : Char} (hc : IsQuiet c)
include hc

theorem IsQuiet.ne {d : Char} (hd : d ∈ linkMarks) : c ≠ d :=
  fun heq => hc.2.2 (heq ▸ hd)

theorem IsQuiet.isAsciiSpace : isAsciiSpace c = false := by
  have htoNat := hc.1
  refine Bool.eq_false_iff.2 fun hspace => ?_
  simp only [Text.isAsciiSpace, Bool.or_eq_true, Bool.and_eq_true, decide_eq_true_eq,
    beq_iff_eq] at hspace
  rcases hspace with rfl | hspace
  · exact absurd htoNat (by decide)
  · omega

theorem IsQuiet.isAsciiControl : isAsciiControl c = false := by
  obtain ⟨htoNat, hdelete, -⟩ := hc
  refine Bool.eq_false_iff.2 fun hcontrol => ?_
  simp only [Text.isAsciiControl, Bool.or_eq_true, decide_eq_true_eq, beq_iff_eq] at hcontrol
  omega

theorem IsQuiet.ne_feed : c ≠ '\n' := by
  rintro rfl
  exact absurd hc (by decide)

theorem IsQuiet.isActive_iff (e : Options) :
    isActive e c = true ↔ e.autolink = true ∧ (c = ':' ∨ c = 'w') := by
  have hmarks : ['\n', '_', '*', '\x60', '\\', '&', '<', '[', ']', '!'].contains c = false := by
    rw [List.contains_eq_mem, decide_eq_false_iff_not]
    intro hmem
    rcases List.mem_cons.1 hmem with hfeed | hmem
    · exact hc.ne_feed hfeed
    · have hsub : ['_', '*', '\x60', '\\', '&', '<', '[', ']', '!'] ⊆ linkMarks := by decide
      exact hc.ne (hsub hmem) rfl
  have htilde : (c == '~') = false := beq_eq_false_iff_ne.2 (hc.ne (by decide))
  rw [isActive, hmarks, htilde, Bool.and_false, Bool.or_false, Bool.false_or]
  simp

end

section
variable {u : List Char} (hu : ∀ c ∈ u, IsQuiet c)
include hu

theorem not_mem_of_quiet {d : Char} (hd : d ∈ linkMarks) : d ∉ u :=
  fun hmem => (hu d hmem).2.2 hd

theorem bareDestination?_quiet (r : List Char) :
    bareDestination? 0 (u ++ ')' :: r) = some (u, ')' :: r) := by
  induction u with
  | nil => rfl
  | cons c u ih =>
    obtain ⟨hc, hr⟩ := List.forall_mem_cons.1 hu
    have hescape : c ≠ '\\' := hc.ne (by decide)
    have hopen : c ≠ '(' := hc.ne (by decide)
    have hclose : c ≠ ')' := hc.ne (by decide)
    rw [List.cons_append, bareDestination?]
    · simp [hopen, hclose, hc.isAsciiSpace, hc.isAsciiControl, ih hr]
    · exact fun d r' heq _ => hescape heq

theorem cleanDestination_quiet : cleanDestination u = u := by
  rw [cleanDestination, trim_of_isAsciiSpace fun c hc => (hu c hc).isAsciiSpace,
    decode_of_not_mem (not_mem_of_quiet hu (by decide)) (not_mem_of_quiet hu (by decide))]

theorem inlineTarget?_quiet (hne : u ≠ []) :
    inlineTarget? ('(' :: (u ++ [')'])) = some (⟨u, []⟩, []) := by
  obtain ⟨c, r, rfl⟩ := List.exists_cons_of_ne_nil hne
  have hc := (List.forall_mem_cons.1 hu).1
  have hstart : trimStart (c :: r ++ [')']) = c :: r ++ [')'] :=
    List.dropWhile_cons_of_neg (Bool.eq_false_iff.1 hc.isAsciiSpace)
  have hangle : c ≠ '<' := hc.ne (by decide)
  have hdestination : destination? (c :: r ++ [')']) = some (c :: r, [')']) := by
    rw [List.cons_append, destination?]
    · rw [hc.isAsciiSpace, hc.isAsciiControl]
      exact bareDestination?_quiet hu []
    · exact fun heq => hangle heq
  have hclose : trimStart [')'] = [')'] := rfl
  have htitle : cleanTitle (upTo [')'] [')']) = [] := rfl
  simp only [inlineTarget?, hstart, hdestination, hclose, if_pos, htitle, cleanDestination_quiet hu]

theorem labelFrom?_quiet (room : Nat) (r : List Char) :
    ∀ l ∈ labelFrom? room (u ++ ']' :: r), l.2 = r := by
  induction u generalizing room with
  | nil =>
    rintro l ⟨⟩
    rfl
  | cons c u ih =>
    obtain ⟨hc, hr⟩ := List.forall_mem_cons.1 hu
    have hescape : c ≠ '\\' := hc.ne (by decide)
    have hopen : c ≠ '[' := hc.ne (by decide)
    have hclose : c ≠ ']' := hc.ne (by decide)
    rw [List.cons_append, labelFrom?]
    · rw [if_neg hclose, if_neg hopen]
      split
      · exact nofun
      · intro l hl
        obtain ⟨l', hl', rfl⟩ := Option.map_eq_some_iff.1 hl
        exact ih hr _ l' hl'
    · exact fun d r' heq _ => hescape heq

theorem definition?_quiet (r : List Char) : definition? ('[' :: (u ++ ']' :: '(' :: r)) = none := by
  unfold definition?
  split
  · rename_i label r' hlabel
    obtain ⟨l, hl, heq⟩ := Option.map_eq_some_iff.1 hlabel
    have hrest := labelFrom?_quiet hu 1000 ('(' :: r) l hl
    rw [(Prod.mk.inj heq).2] at hrest
    cases hrest
  · rfl

end

namespace Scan

def taking (t : List Char) (s : Scan) : Scan :=
  (s.pushText t).advance t

theorem taking_append (s : Scan) (a b : List Char) :
    (s.taking a).taking b = s.taking (a ++ b) := by
  simp [taking, pushText, advance, byteLength_append, Nat.add_assoc]

theorem endsWithHardBreak_taking {s : Scan} (h : endsWithHardBreak s.pieces = false)
    (t : List Char) : endsWithHardBreak (s.taking t).pieces = false := by
  rcases List.eq_nil_or_concat t with rfl | ⟨before, c, rfl⟩
  · exact h
  · rw [List.concat_eq_append, ← taking_append]
    rfl

end Scan

theorem step_append (s : Scan) (c : Char) (a b : List Char) :
    s.step (c :: (a ++ b)) b = ⟨s.advance (c :: a), a.length⟩ := by
  have htaken : upTo (c :: (a ++ b)) b = c :: a := by
    rw [upTo, ← List.cons_append, List.length_append, Nat.add_sub_cancel, List.take_left]
  have hmore : (c :: (a ++ b)).length - b.length - 1 = a.length := by
    rw [List.length_cons, List.length_append]
    omega
  rw [Scan.step, htaken, hmore]

section
variable (g : Setting)

theorem scanFrom_taken (s : Scan) (a b : List Char) :
    scanFrom g a.length s (a ++ b) = scanFrom g 0 s b := by
  induction a with
  | nil => rfl
  | cons c a ih => rw [List.length_cons, List.cons_append, scanFrom, ih]

theorem scanFrom_step {s s' : Scan} {c : Char} {a b : List Char}
    (h : readNext g s c (a ++ b) = s'.step (c :: (a ++ b)) b) :
    scanFrom g 0 s (c :: (a ++ b)) = scanFrom g 0 (s'.advance (c :: a)) b := by
  rw [scanFrom, h, step_append]
  exact scanFrom_taken g _ a b

theorem takeWhile_append_stop {p : Char → Bool} {d : Char} (hd : p d = false) (t r : List Char) :
    (t ++ d :: r).takeWhile p = t.takeWhile p ∧
      (t ++ d :: r).dropWhile p = t.dropWhile p ++ d :: r := by
  induction t with
  | nil => simp [hd]
  | cons c t ih =>
    by_cases hc : p c = true
    · simp [hc, ih]
    · simp [hc]

theorem readNext_quiet (s : Scan) {c : Char} (hc : IsQuiet c) (r : List Char) :
    readNext g s c r =
      if c = ':' ∧ g.options.autolink then readColon s r
      else if c = 'w' ∧ g.options.autolink then readWww s r
      else readText g s c r := by
  have htilde : c ≠ '~' := hc.ne (by decide)
  rw [readNext]
  · rw [if_neg fun h => htilde h.1]
  · exact hc.ne_feed
  all_goals exact hc.ne (by decide)

section
variable {s : Scan} {c : Char} (hc : IsQuiet c)
include hc

theorem readNext_active (hin : s.inBrackets = true) (hactive : isActive g.options c = true)
    (r : List Char) : readNext g s c r = (s.push (.char c)).step (c :: r) r := by
  obtain ⟨hbare, rfl | rfl⟩ := (hc.isActive_iff g.options).1 hactive
  · rw [readNext_quiet g s hc, if_pos ⟨rfl, hbare⟩, readColon, if_pos hin]
  · rw [readNext_quiet g s hc, if_neg (by simp), if_pos ⟨rfl, hbare⟩, readWww, if_pos hin]

theorem readNext_inactive (hbreak : endsWithHardBreak s.pieces = false)
    (hactive : ¬ isActive g.options c = true) {r : List Char} (hr : '\n' ∉ r) :
    readNext g s c r =
      (s.pushText (c :: r.takeWhile fun d => !isActive g.options d)).step (c :: r)
        (r.dropWhile fun d => !isActive g.options d) := by
  rw [hc.isActive_iff] at hactive
  have hcolon : ¬ (c = ':' ∧ g.options.autolink = true) := fun h => hactive ⟨h.2, .inl h.1⟩
  have hwww : ¬ (c = 'w' ∧ g.options.autolink = true) := fun h => hactive ⟨h.2, .inr h.1⟩
  have hfeed : (r.dropWhile fun d => !isActive g.options d).head? ≠ some '\n' := fun h =>
    hr ((List.dropWhile_suffix _).subset (List.mem_of_head? h))
  rw [readNext_quiet g s hc, if_neg hcolon, if_neg hwww, readText]
  rw [if_neg hfeed, hbreak, if_neg Bool.false_ne_true]

theorem scanFrom_run (hbreak : endsWithHardBreak s.pieces = false)
    (hactive : ¬ isActive g.options c = true) {r : List Char} (hr : '\n' ∉ r) :
    scanFrom g 0 s (c :: r) =
      scanFrom g 0 (s.taking (c :: r.takeWhile fun d => !isActive g.options d))
        (r.dropWhile fun d => !isActive g.options d) := by
  have hnext := readNext_inactive g hc hbreak hactive hr
  have hsplit : r = (r.takeWhile fun d => !isActive g.options d) ++
      r.dropWhile fun d => !isActive g.options d := List.takeWhile_append_dropWhile.symm
  generalize (r.takeWhile fun d => !isActive g.options d) = run at hnext hsplit ⊢
  generalize (r.dropWhile fun d => !isActive g.options d) = left at hnext hsplit ⊢
  subst hsplit
  exact scanFrom_step g hnext

end

/-- Quiet text in brackets is read as it stands, up to the closing bracket. -/
theorem scanFrom_quiet {s : Scan} (hin : s.inBrackets = true)
    (hbreak : endsWithHardBreak s.pieces = false) {t : List Char} (ht : ∀ c ∈ t, IsQuiet c)
    {r : List Char} (hr : '\n' ∉ r) :
    scanFrom g 0 s (t ++ ']' :: r) = scanFrom g 0 (s.taking t) (']' :: r) := by
  -- a step takes a character or more, so the induction is on the length of the text
  obtain ⟨n, hn⟩ : ∃ n, t.length ≤ n := ⟨_, Nat.le_refl _⟩
  induction n generalizing s t with
  | zero =>
    rw [List.eq_nil_of_length_eq_zero (Nat.le_zero.1 hn)]
    rfl
  | succ n ih =>
    cases t with
    | nil => rfl
    | cons c t =>
      obtain ⟨hc, ht⟩ := List.forall_mem_cons.1 ht
      have hlength : t.length ≤ n := Nat.le_of_succ_le_succ hn
      by_cases hactive : isActive g.options c = true
      · have hnext := readNext_active g hc hin hactive ([] ++ (t ++ ']' :: r))
        have hone : (s.push (.char c)).advance [c] = s.taking [c] := rfl
        have htaken : endsWithHardBreak (s.taking [c]).pieces = false :=
          Scan.endsWithHardBreak_taking hbreak _
        have hstep := scanFrom_step g hnext
        rw [List.nil_append, hone] at hstep
        have hrest := ih (s := s.taking [c]) hin htaken ht hlength
        rw [Scan.taking_append] at hrest
        exact hstep.trans hrest
      · have hfeed : '\n' ∉ t ++ ']' :: r := by
          simp only [List.mem_append, List.mem_cons, not_or]
          exact ⟨fun h => (ht _ h).ne_feed rfl, by decide, hr⟩
        have hrun := scanFrom_run g hc hbreak hactive hfeed
        obtain ⟨htake, hdrop⟩ :=
          takeWhile_append_stop (p := fun d => !isActive g.options d) (d := ']') rfl t r
        rw [htake, hdrop] at hrun
        have hsuffix : (t.dropWhile fun d => !isActive g.options d) <:+ t :=
          List.dropWhile_suffix _
        have htaken : endsWithHardBreak
            (s.taking (c :: t.takeWhile fun d => !isActive g.options d)).pieces = false :=
          Scan.endsWithHardBreak_taking hbreak _
        have hrest := ih (s := s.taking (c :: t.takeWhile fun d => !isActive g.options d)) hin
          htaken (fun d hd => ht d (hsuffix.subset hd)) (Nat.le_trans hsuffix.length_le hlength)
        rw [Scan.taking_append, List.cons_append, List.takeWhile_append_dropWhile] at hrest
        exact hrun.trans hrest

theorem scanFrom_close {s : Scan} {b : Bracket} (hbrackets : s.brackets = [b])
    (himage : b.image = false) (hlink : s.afterLink = false) {r : List Char} {t : Target}
    (ht : inlineTarget? r = some (t, [])) :
    scanFrom g 0 s (']' :: r) =
      (closeLink { s with inBrackets := false } b [] t).advance (']' :: r) := by
  have hnext : readNext g s ']' (r ++ []) =
      (closeLink { s with inBrackets := false } b [] t).step (']' :: (r ++ [])) [] := by
    have hclose : readNext g s ']' r = closeBracket g s r := rfl
    rw [List.append_nil, hclose, closeBracket]
    simp only [hbrackets, himage, hlink, ht, Bool.not_false, Bool.and_false, if_neg,
      Bool.false_eq_true, not_false_eq_true]
  have hstep := scanFrom_step g hnext
  rw [List.append_nil] at hstep
  exact hstep

end

theorem spansFrom_chars (read t : List Char) :
    spansFrom read (t.map .char) = textSpan (read.reverse ++ t) := by
  induction t generalizing read with
  | nil => rw [List.map_nil, spansFrom, List.append_nil]
  | cons c t ih =>
    rw [List.map_cons, spansFrom, ih, List.reverse_cons, List.append_assoc, List.singleton_append]

theorem foldl_step_chars (t : List Char) (p : Pairing) :
    (t.map Piece.char).foldl Pairing.step p =
      { p with before := (t.map .char).reverse ++ p.before } := by
  induction t generalizing p with
  | nil => rfl
  | cons c t ih =>
    rw [List.map_cons, List.foldl_cons, ih, List.reverse_cons, List.append_assoc]
    rfl

theorem pairRuns_chars {t : List Char} (hne : t ≠ []) :
    pairRuns (t.map .char) = [.text (String.ofList t)] := by
  rw [pairRuns, foldl_step_chars, List.append_nil, List.reverse_reverse, spansOf, spansFrom_chars]
  simp [textSpan, hne]

theorem trimEnd_line (a : List Char) {d : Char} (hd : isAsciiSpace d = false) :
    trimEnd (a ++ [d, '\n']) = a ++ [d] := by
  have hfeed : isAsciiSpace '\n' = true := rfl
  simp [trimEnd, hd, hfeed]

def Passage.start (p : Passage) : Position :=
  ⟨p.line, 1 + p.offsets.getD 0 0⟩

theorem pairRuns_span (s : Span) : pairRuns [.span s] = [s] := rfl

theorem linkMailIn_link (destination : String) (position : Option Position) (children : List Span) :
    linkMailIn [.link destination position children] = [.link destination position children] := rfl

theorem readPassage_of_link {e : Options} {definitions : List Definition} {room : Nat}
    {p : Passage} {destination : String} {position : Option Position} {children : List Span}
    (h : (scanFrom ⟨e, definitions, p⟩ 0 { room := room } (trimEnd p.text)).dropBrackets =
      [.span (.link destination position children)]) :
    (readPassage e definitions room p).1 = [.link destination position children] := by
  unfold readPassage
  dsimp only
  rw [h, List.reverse_singleton, pairRuns_span, linkMailIn_link, ite_self]

def Scan.opened (p : Passage) (room : Nat) (behind : List Char) : Scan :=
  { seen := ['['], bytes := 1, brackets := [⟨false, [], behind, p.start, false⟩], inBrackets := true
    afterLink := false, room := room }

theorem scanFrom_open (g : Setting) (room : Nat) (r : List Char) :
    scanFrom g 0 { room := room } ('[' :: r) = scanFrom g 0 (Scan.opened g.passage room r) r := by
  have hnext : readNext g { room := room } '[' ([] ++ r) =
      Scan.step ('[' :: ([] ++ r)) r { Scan.opened g.passage room r with seen := [], bytes := 0 } :=
    rfl
  exact scanFrom_step g hnext

theorem isUriChar_quiet {c : Char} (hc : IsQuiet c) : isUriChar c = true := by
  have hspace : ' ' < c := hc.1
  have hopen : c ≠ '<' := hc.ne (by decide)
  have hclose : c ≠ '>' := hc.ne (by decide)
  simp [isUriChar, hspace, hopen, hclose]

def secureScheme : List Char := ['h', 't', 't', 'p', 's', ':']

theorem angleAddress?_quiet {u : List Char} (hu : ∀ c ∈ u, IsQuiet c) :
    angleAddress? (secureScheme ++ (u ++ ['>'])) =
      some (⟨secureScheme ++ u, secureScheme ++ u⟩, []) := by
  have huri : ∀ c ∈ u, isUriChar c = true := fun c hc => isUriChar_quiet (hu c hc)
  have htake : (u ++ ['>']).takeWhile isUriChar = u := by
    rw [List.takeWhile_append_of_pos huri, List.takeWhile_cons_of_neg (by decide), List.append_nil]
  have hdrop : (u ++ ['>']).dropWhile isUriChar = ['>'] := by
    rw [List.dropWhile_append_of_pos huri, List.dropWhile_cons_of_neg (by decide)]
  have hreference : '&' ∉ secureScheme ++ u := by
    rw [List.mem_append, not_or]
    exact ⟨by decide, not_mem_of_quiet hu (by decide)⟩
  have hscheme : (secureScheme ++ (u ++ ['>'])).takeWhile isSchemeChar = ['h', 't', 't', 'p', 's'] :=
    rfl
  have hbehind : (secureScheme ++ (u ++ ['>'])).dropWhile isSchemeChar = ':' :: (u ++ ['>']) := rfl
  have hdecode : decodeReferences (['h', 't', 't', 'p', 's'] ++ ':' :: u) = secureScheme ++ u :=
    decodeReferences_of_not_mem hreference
  have hangle : angleUri? (secureScheme ++ (u ++ ['>'])) =
      some (⟨secureScheme ++ u, secureScheme ++ u⟩, []) := by
    simp only [angleUri?, hscheme, hbehind, hdrop, htake, hdecode]
    rfl
  rw [angleAddress?, hangle]

theorem scanFrom_angle (g : Setting) (room : Nat) {a : Address} {r : List Char}
    (ha : angleAddress? r = some (a, [])) :
    (scanFrom g 0 { room := room } ('<' :: r)).dropBrackets =
      [.span (a.span (some g.passage.start))] := by
  have hnext : readNext g { room := room } '<' (r ++ []) =
      (Scan.push (.span (a.span (some g.passage.start))) { room := room }).step
        ('<' :: (r ++ [])) [] := by
    have hangle : readNext g { room := room } '<' r = readAngle g { room := room } r := rfl
    rw [List.append_nil, hangle, readAngle, ha]
    rfl
  have hstep := scanFrom_step g hnext
  rw [List.append_nil] at hstep
  rw [hstep]
  rfl

section
variable (e : Options) (definitions : List Definition) (room : Nat) {p : Passage}
  {u : List Char} (hu : ∀ c ∈ u, IsQuiet c)
include hu

theorem not_mem_line_of_quiet (r : List Char) (hr : '\n' ∉ r) : '\n' ∉ u ++ r :=
  fun h => (List.mem_append.1 h).elim (fun hmem => (hu _ hmem).ne_feed rfl) hr

/-- A link whose text is its own destination, and which is all of its passage. -/
theorem readPassage_link (hne : u ≠ [])
    (hp : p.text = '[' :: (u ++ ']' :: '(' :: (u ++ [')', '\n']))) :
    (readPassage e definitions room p).1 =
      [.link (String.ofList u) (some p.start) [.text (String.ofList u)]] := by
  have htext : trimEnd p.text = '[' :: (u ++ ']' :: '(' :: (u ++ [')'])) := by
    have hline := trimEnd_line ('[' :: (u ++ ']' :: '(' :: u)) (d := ')') rfl
    rw [hp]
    simpa using hline
  have hfeed : '\n' ∉ '(' :: (u ++ [')']) :=
    List.not_mem_cons_of_ne_of_not_mem (by decide) (not_mem_line_of_quiet hu _ (by decide))
  have hquiet := scanFrom_quiet ⟨e, definitions, p⟩
    (s := Scan.opened p room (u ++ ']' :: '(' :: (u ++ [')']))) rfl rfl hu hfeed
  have hclose := scanFrom_close ⟨e, definitions, p⟩
    (s := (Scan.opened p room (u ++ ']' :: '(' :: (u ++ [')']))).taking u) rfl rfl rfl
    (inlineTarget?_quiet hu hne)
  have hchildren : pairRuns (u.reverse.map Piece.char ++ []).reverse =
      [.text (String.ofList u)] := by
    rw [List.append_nil, ← List.map_reverse, List.reverse_reverse, pairRuns_chars hne]
  refine readPassage_of_link ?_
  rw [htext, scanFrom_open, hquiet, hclose, ← hchildren]
  rfl

theorem readPassage_angle (hp : p.text = '<' :: (secureScheme ++ (u ++ ['>', '\n']))) :
    (readPassage e definitions room p).1 =
      [.link (String.ofList (secureScheme ++ u)) (some p.start)
        [.text (String.ofList (secureScheme ++ u))]] := by
  have htext : trimEnd p.text = '<' :: (secureScheme ++ (u ++ ['>'])) := by
    have hline := trimEnd_line ('<' :: (secureScheme ++ u)) (d := '>') rfl
    rw [hp]
    simpa using hline
  refine readPassage_of_link ?_
  rw [htext, scanFrom_angle _ room (angleAddress?_quiet hu)]
  rfl

end

end MarkdownToAdf.Markdown
