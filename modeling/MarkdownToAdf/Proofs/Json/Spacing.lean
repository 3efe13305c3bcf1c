import MarkdownToAdf.Format.Registry
import MarkdownToAdf.Proofs.Json.RoundTrip

set_option autoImplicit false

/-!
# Spaces and line feeds between the parts of a value

The two layouts differ in nothing but the spaces and line feeds outside string literals. Which of
them stand outside can be seen from left to right, by quotes and the backslashes before them.
-/
namespace MarkdownToAdf.Json

/-- Where a character stands: outside string literals, inside of one, or there behind a backslash
that escapes it. -/
inductive Context where
  | outside
  | inside
  | escaped
  deriving DecidableEq, Repr

def Context.behind : Context → Char → Context
  | outside, c => if c = '\x22' then inside else outside
  | inside, c => if c = '\\' then escaped else if c = '\x22' then outside else inside
  | escaped, _ => inside

def isSpacing (c : Char) : Bool :=
  c == ' ' || c == '\n'

theorem isSpacing_eq_false {c : Char} (h : isSpace c = false) : isSpacing c = false := by
  simp only [isSpace, Bool.or_eq_false_iff] at h
  rw [isSpacing, h.1.1.1, h.1.1.2, Bool.or_false]

/-- What is left of a text without the spacing outside its string literals. -/
def bareFrom : Context → List Char → List Char
  | _, [] => []
  | k, c :: r =>
    if k = .outside ∧ isSpacing c then bareFrom k r else c :: bareFrom (k.behind c) r

def bare (text : String) : String :=
  String.ofList (bareFrom .outside text.toList)

structure IsLetter (c : Char) : Prop where
  ne_backslash : c ≠ '\\'
  ne_quote : c ≠ '\x22'
  printable : 32 ≤ c.toNat

theorem isLetter_hexDigit {n : Nat} (h : n < 16) : IsLetter (hexDigit n) := by
  have hdigits : ∀ n < 16, hexDigit n ≠ '\\' ∧ hexDigit n ≠ '\x22' ∧ 32 ≤ (hexDigit n).toNat := by
    decide
  obtain ⟨hback, hquote, hprintable⟩ := hdigits n h
  exact ⟨hback, hquote, hprintable⟩

theorem escape_cases (c : Char) :
    (∃ d word, escape c = '\\' :: d :: word ∧ 32 ≤ d.toNat ∧ ∀ x ∈ word, IsLetter x) ∨
      (escape c = [c] ∧ IsLetter c) := by
  unfold escape
  split_ifs with hquote hback _ _ _ _ _ hcontrol
  any_goals exact .inl ⟨_, [], rfl, by decide, List.forall_mem_nil _⟩
  · have hhigh : IsLetter (hexDigit (c.toNat / 16)) := isLetter_hexDigit (by omega)
    have hlow : IsLetter (hexDigit (c.toNat % 16)) := isLetter_hexDigit (by omega)
    have hzero : IsLetter '0' := ⟨by decide, by decide, by decide⟩
    refine .inl ⟨'u', ['0', '0', _, _], rfl, by decide, ?_⟩
    simp [hhigh, hlow, hzero]
  · exact .inr ⟨rfl, hback, hquote, Nat.le_of_not_lt hcontrol⟩

section
variable (rest : List Char)

theorem bareFrom_spacing {blank : List Char} (h : ∀ c ∈ blank, isSpacing c = true) :
    bareFrom .outside (blank ++ rest) = bareFrom .outside rest := by
  induction blank with
  | nil => rfl
  | cons c r ih =>
    obtain ⟨hc, hr⟩ := List.forall_mem_cons.1 h
    rw [List.cons_append, bareFrom, if_pos ⟨rfl, hc⟩, ih hr]

theorem bareFrom_cons {c : Char} (hspacing : isSpacing c = false) (hquote : c ≠ '\x22') :
    bareFrom .outside (c :: rest) = c :: bareFrom .outside rest := by
  rw [bareFrom, if_neg (by simp [hspacing]), Context.behind, if_neg hquote]

theorem bareFrom_append {word : List Char} (h : ∀ c ∈ word, isSpacing c = false ∧ c ≠ '\x22') :
    bareFrom .outside (word ++ rest) = word ++ bareFrom .outside rest := by
  induction word with
  | nil => rfl
  | cons c r ih =>
    obtain ⟨⟨hspacing, hquote⟩, hr⟩ := List.forall_mem_cons.1 h
    rw [List.cons_append, bareFrom_cons _ hspacing hquote, ih hr, List.cons_append]

theorem bareFrom_inside (c : Char) :
    bareFrom .inside (c :: rest) = c :: bareFrom (Context.inside.behind c) rest := by
  rw [bareFrom, if_neg (by simp)]

theorem bareFrom_letters {word : List Char} (h : ∀ c ∈ word, IsLetter c) :
    bareFrom .inside (word ++ rest) = word ++ bareFrom .inside rest := by
  induction word with
  | nil => rfl
  | cons c r ih =>
    obtain ⟨hc, hr⟩ := List.forall_mem_cons.1 h
    rw [List.cons_append, bareFrom_inside, Context.behind, if_neg hc.ne_backslash,
      if_neg hc.ne_quote, ih hr, List.cons_append]

theorem bareFrom_escape (c : Char) :
    bareFrom .inside (escape c ++ rest) = escape c ++ bareFrom .inside rest := by
  rcases escape_cases c with ⟨d, word, hescape, -, hword⟩ | ⟨hescape, hc⟩
  · rw [hescape]
    -- the backslash takes the character behind it out of the scanner's sight
    change '\\' :: d :: bareFrom .inside (word ++ rest) = _
    rw [bareFrom_letters rest hword]
    rfl
  · rw [hescape, bareFrom_letters rest (List.forall_mem_singleton.2 hc)]

theorem bareFrom_flatMap_escape (s : List Char) :
    bareFrom .inside (s.flatMap escape ++ '\x22' :: rest) =
      s.flatMap escape ++ '\x22' :: bareFrom .outside rest := by
  induction s with
  | nil => rfl
  | cons c s ih =>
    rw [List.flatMap_cons, List.append_assoc, bareFrom_escape, ih, List.append_assoc]

theorem bareFrom_stringChars (s : String) :
    bareFrom .outside (stringChars s ++ rest) = stringChars s ++ bareFrom .outside rest := by
  rw [stringChars_append, stringChars_append, ← bareFrom_flatMap_escape]
  rfl

theorem isSpacing_lineBreak (l : Layout) : ∀ c ∈ l.lineBreak, isSpacing c = true := by
  cases l with
  | compact => exact List.forall_mem_nil _
  | indented level =>
    refine List.forall_mem_cons.2 ⟨rfl, fun c hc => ?_⟩
    rw [List.eq_of_mem_replicate hc]
    rfl

theorem bareFrom_lineBreak (l : Layout) :
    bareFrom .outside (l.lineBreak ++ rest) = bareFrom .outside rest :=
  bareFrom_spacing rest (isSpacing_lineBreak l)

theorem bareFrom_colon (l : Layout) :
    bareFrom .outside (l.colon ++ rest) = ':' :: bareFrom .outside rest := by
  cases l <;> rfl

theorem bareFrom_digits (n : Nat) :
    bareFrom .outside (Nat.toDigits 10 n ++ rest) =
      Nat.toDigits 10 n ++ bareFrom .outside rest := by
  refine bareFrom_append rest fun c hc => ?_
  have hdigit := Nat.isDigit_of_mem_toDigits (by decide) (by decide) hc
  refine ⟨isSpacing_eq_false (isSpace_of_isDigit hdigit), ?_⟩
  rintro rfl
  exact absurd hdigit (by decide)

theorem bareFrom_comma (first : Bool) :
    bareFrom .outside ((if first then [] else [',']) ++ rest) =
      (if first then [] else [',']) ++ bareFrom .outside rest := by
  cases first <;> rfl

theorem bareFrom_closing (l : Layout) (first : Bool) {c : Char} (hspacing : isSpacing c = false)
    (hquote : c ≠ '\x22') :
    bareFrom .outside ((if first then [] else l.lineBreak) ++ [c] ++ rest) =
      (if first then [] else Layout.compact.lineBreak) ++ [c] ++ bareFrom .outside rest := by
  rw [List.append_assoc, List.append_assoc, List.singleton_append]
  cases first with
  | false => exact (bareFrom_lineBreak _ l).trans (bareFrom_cons rest hspacing hquote)
  | true => exact bareFrom_cons rest hspacing hquote

end

-- The scanner is outside again behind every value, so what follows is read as if it stood alone.
mutual

theorem bareFrom_chars : (v : Json) → (l : Layout) → (rest : List Char) →
    bareFrom .outside (chars l v ++ rest) = chars .compact v ++ bareFrom .outside rest
  | string s, l, rest => by
    rw [chars, chars, bareFrom_stringChars]
  | number n, l, rest => by
    rw [chars, chars, bareFrom_digits]
  | bool b, l, rest => by
    cases b <;> rfl
  | array items, l, rest => by
    have hitems := bareFrom_itemsChars items l true rest
    rw [chars, chars, List.cons_append, List.cons_append, ← hitems]
    exact bareFrom_cons _ rfl (by decide)
  | object members, l, rest => by
    have hmembers := bareFrom_membersChars members l true rest
    rw [chars, chars, List.cons_append, List.cons_append, ← hmembers]
    exact bareFrom_cons _ rfl (by decide)

theorem bareFrom_itemsChars : (items : List Json) → (l : Layout) → (first : Bool) →
    (rest : List Char) → bareFrom .outside (itemsChars l first items ++ rest) =
      itemsChars .compact first items ++ bareFrom .outside rest
  | [], l, first, rest => by
    rw [itemsChars, itemsChars]
    exact bareFrom_closing rest l first rfl (by decide)
  | v :: r, l, first, rest => by
    have hvalue := bareFrom_chars v l.deeper (itemsChars l false r ++ rest)
    have hitems := bareFrom_itemsChars r l false rest
    simp only [itemsChars, List.append_assoc]
    rw [bareFrom_comma, bareFrom_lineBreak, hvalue, hitems]
    rfl

theorem bareFrom_membersChars : (members : List (String × Json)) → (l : Layout) →
    (first : Bool) → (rest : List Char) →
    bareFrom .outside (membersChars l first members ++ rest) =
      membersChars .compact first members ++ bareFrom .outside rest
  | [], l, first, rest => by
    rw [membersChars, membersChars]
    exact bareFrom_closing rest l first rfl (by decide)
  | (name, v) :: r, l, first, rest => by
    have hvalue := bareFrom_chars v l.deeper (membersChars l false r ++ rest)
    have hmembers := bareFrom_membersChars r l false rest
    simp only [membersChars, List.append_assoc]
    rw [bareFrom_comma, bareFrom_lineBreak, bareFrom_stringChars, bareFrom_colon, hvalue, hmembers]
    rfl

end

example : bare "[ \"a \\\" b\",\n 1 ]" = "[\"a \\\" b\",1]" := rfl

def Printable (text : List Char) : Prop :=
  ∀ c ∈ text, 32 ≤ c.toNat

theorem printable_of_all {text : List Char} (h : (text.all fun c => 32 ≤ c.toNat) = true) :
    Printable text := by
  intro c hc
  exact of_decide_eq_true (List.all_eq_true.1 h c hc)

theorem Printable.append {s t : List Char} (hs : Printable s) (ht : Printable t) :
    Printable (s ++ t) :=
  List.forall_mem_append.2 ⟨hs, ht⟩

theorem printable_escape (c : Char) : Printable (escape c) := by
  rcases escape_cases c with ⟨d, word, hescape, hd, hword⟩ | ⟨hescape, hc⟩
  · rw [hescape]
    exact List.forall_mem_cons.2
      ⟨by decide, List.forall_mem_cons.2 ⟨hd, fun x hx => (hword x hx).printable⟩⟩
  · rw [hescape]
    exact List.forall_mem_singleton.2 hc.printable

theorem printable_stringChars (s : String) : Printable (stringChars s) := by
  have hescaped : Printable (s.toList.flatMap escape) := by
    intro c hc
    obtain ⟨d, -, hd⟩ := List.mem_flatMap.1 hc
    exact printable_escape d c hd
  have hquote : Printable ['\x22'] := printable_of_all rfl
  exact (hquote.append hescaped).append hquote

theorem printable_digits (n : Nat) : Printable (Nat.toDigits 10 n) := by
  intro c hc
  have hdigit := Nat.isDigit_of_mem_toDigits (by decide) (by decide) hc
  have hzero : '0'.toNat ≤ c.toNat := (Char.isDigit_iff_toNat.1 hdigit).1
  exact Nat.le_trans (by decide) hzero

theorem printable_comma (first : Bool) : Printable (if first then [] else [',']) := by
  cases first <;> exact printable_of_all rfl

mutual

theorem printable_chars : (v : Json) → Printable (chars .compact v)
  | string s => by
    rw [chars]
    exact printable_stringChars s
  | number n => by
    rw [chars]
    exact printable_digits n
  | bool b => by
    cases b <;> exact printable_of_all rfl
  | array items => by
    rw [chars]
    exact List.forall_mem_cons.2 ⟨by decide, printable_itemsChars items true⟩
  | object members => by
    rw [chars]
    exact List.forall_mem_cons.2 ⟨by decide, printable_membersChars members true⟩

theorem printable_itemsChars :
    (items : List Json) → (first : Bool) → Printable (itemsChars .compact first items)
  | [], first => by cases first <;> exact printable_of_all rfl
  | v :: r, first => by
    have hcomma := (printable_comma first).append (List.forall_mem_nil _)
    exact (hcomma.append (printable_chars v)).append (printable_itemsChars r false)

theorem printable_membersChars :
    (members : List (String × Json)) → (first : Bool) →
      Printable (membersChars .compact first members)
  | [], first => by cases first <;> exact printable_of_all rfl
  | (name, v) :: r, first => by
    have hcomma := (printable_comma first).append (List.forall_mem_nil _)
    have hcolon : Printable [':'] := printable_of_all rfl
    have hname := (hcomma.append (printable_stringChars name)).append hcolon
    exact (hname.append (printable_chars v)).append (printable_membersChars r false)

end

open Adf Format in
/-- The text of a document over many lines is its text on one line, with spaces and line feeds
outside the string literals only. The one line has no control character anywhere. -/
theorem bare_jsonText (d : Document) :
    bare (jsonText true d) = jsonText false d ∧ ∀ c ∈ (jsonText false d).toList, 32 ≤ c.toNat := by
  refine ⟨?_, ?_⟩
  · have h := bareFrom_chars d.json (.indented 0) []
    rw [List.append_nil, bareFrom, List.append_nil] at h
    rw [bare, jsonText, text, if_pos rfl, String.toList_ofList, h]
    rfl
  · rw [jsonText, text, String.toList_ofList]
    exact printable_chars d.json

end MarkdownToAdf.Json
