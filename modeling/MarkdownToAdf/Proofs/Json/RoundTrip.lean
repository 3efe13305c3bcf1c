import MarkdownToAdf.Json.Reading
import MarkdownToAdf.Json.Text
import Mathlib.Tactic.SplitIfs

set_option autoImplicit false

/-!
# Values read back from their text

Whatever the layout, a value is read back from its text and from whatever follows it, as long as
a number is not followed by another digit. Each part of the text begins with a character that
tells what it is, and white space only stands between the parts.
-/
namespace MarkdownToAdf.Json
open Text

theorem skipSpace_append {blank : List Char} (h : ∀ c ∈ blank, isSpace c = true)
    (text : List Char) : skipSpace (blank ++ text) = skipSpace text :=
  List.dropWhile_append_of_pos h

theorem skipSpace_cons {c : Char} (h : isSpace c = false) (r : List Char) :
    skipSpace (c :: r) = c :: r :=
  List.dropWhile_cons_of_neg (Bool.eq_false_iff.1 h)

theorem isSpace_lineBreak (l : Layout) : ∀ c ∈ l.lineBreak, isSpace c = true := by
  cases l with
  | compact => exact List.forall_mem_nil _
  | indented level =>
    refine List.forall_mem_cons.2 ⟨rfl, fun c hc => ?_⟩
    rw [List.eq_of_mem_replicate hc]
    rfl

theorem skipSpace_lineBreak (l : Layout) (text : List Char) :
    skipSpace (l.lineBreak ++ text) = skipSpace text :=
  skipSpace_append (isSpace_lineBreak l) text

theorem hexDigit_spec : ∀ n < 16, isHexDigit (hexDigit n) = true ∧ hexValue (hexDigit n) = n := by
  decide

theorem characterOfCode?_hexDigits (c : Char) (h : c.toNat < 32) :
    characterOfCode? ['0', '0', hexDigit (c.toNat / 16), hexDigit (c.toNat % 16)] = some c := by
  obtain ⟨hhigh, hhighValue⟩ := hexDigit_spec (c.toNat / 16) (by omega)
  obtain ⟨hlow, hlowValue⟩ := hexDigit_spec (c.toNat % 16) (by omega)
  have hzero : isHexDigit '0' = true ∧ hexValue '0' = 0 := by decide
  have hcode : 16 * (c.toNat / 16) + c.toNat % 16 = c.toNat := Nat.div_add_mod _ _
  have hvalid : c.toNat.isValidChar := c.valid
  simp [characterOfCode?, hhigh, hlow, hzero, hhighValue, hlowValue, hcode, hvalid]

theorem stringRest?_escape (c : Char) (r : List Char) :
    stringRest? (escape c ++ r) = (stringRest? r).map fun (s, rest) => (c :: s, rest) := by
  unfold escape
  split_ifs with hquote hback hfeed htab hreturn hbell hform hcontrol
  · subst hquote; simp [stringRest?, escaped?]
  · subst hback; simp [stringRest?, escaped?]
  · subst hfeed; simp [stringRest?, escaped?]
  · subst htab; simp [stringRest?, escaped?]
  · subst hreturn; simp [stringRest?, escaped?]
  · subst hbell; simp [stringRest?, escaped?]
  · subst hform; simp [stringRest?, escaped?]
  · simp [stringRest?, characterOfCode?_hexDigits c hcontrol]
  · -- any other character stands for itself, so neither equation for a backslash applies
    rw [List.singleton_append, stringRest?]
    · simp [hquote, hback, hcontrol]
    · intro a b d e r' hc _
      exact hback hc
    · intro e r' hc _
      exact hback hc

theorem stringRest?_flatMap_escape (s rest : List Char) :
    stringRest? (s.flatMap escape ++ '\x22' :: rest) = some (s, rest) := by
  induction s with
  | nil => simp [stringRest?]
  | cons c s ih =>
    rw [List.flatMap_cons, List.append_assoc, stringRest?_escape, ih]
    rfl

def EndsNumber (rest : List Char) : Prop :=
  ∀ c ∈ rest.head?, c.isDigit = false

theorem natural?_toDigits (n : Nat) {rest : List Char} (h : EndsNumber rest) :
    natural? (Nat.toDigits 10 n ++ rest) = some (n, rest) := by
  have hdigits : ∀ c ∈ Nat.toDigits 10 n, c.isDigit = true := fun c hc =>
    Nat.isDigit_of_mem_toDigits (by decide) (by decide) hc
  have htake : rest.takeWhile Char.isDigit = [] ∧ rest.dropWhile Char.isDigit = rest := by
    cases rest with
    | nil => exact ⟨rfl, rfl⟩
    | cons c r =>
      have hc : ¬ c.isDigit = true := Bool.eq_false_iff.1 (h c rfl)
      exact ⟨List.takeWhile_cons_of_neg hc, List.dropWhile_cons_of_neg hc⟩
  unfold natural?
  rw [List.takeWhile_append_of_pos hdigits, List.dropWhile_append_of_pos hdigits, htake.1,
    htake.2, List.append_nil]
  simp [Nat.toDigits_ne_nil, Nat.ofDigitChars_ten_toDigits]

section
variable {fuel : Nat} {text r : List Char}

theorem value?_append {blank : List Char} (h : ∀ c ∈ blank, isSpace c = true) (fuel : Nat)
    (text : List Char) : value? fuel (blank ++ text) = value? fuel text := by
  cases fuel with
  | zero => rfl
  | succ fuel => simp only [value?, skipSpace_append h]

theorem value?_quote (h : skipSpace text = '\x22' :: r) :
    value? (fuel + 1) text =
      (stringRest? r).map fun (s, rest) => (string (String.ofList s), rest) := by
  simp only [value?, h]

theorem value?_array (h : skipSpace text = '[' :: r) (hr : (skipSpace r).head? ≠ some ']') :
    value? (fuel + 1) text =
      (items? fuel r).map fun (items, rest) => (array items, rest) := by
  simp only [value?, h]
  split
  · rename_i hclosed
    exact absurd (congrArg List.head? hclosed) hr
  · rfl

theorem value?_object (h : skipSpace text = '\x7b' :: r) (hr : (skipSpace r).head? ≠ some '\x7d') :
    value? (fuel + 1) text =
      (members? fuel r).map fun (members, rest) => (object members, rest) := by
  simp only [value?, h]
  split
  · rename_i hclosed
    exact absurd (congrArg List.head? hclosed) hr
  · rfl

theorem value?_digit {c : Char} (h : skipSpace text = c :: r) (hc : c.isDigit = true) :
    value? (fuel + 1) text = (natural? (c :: r)).map fun (n, rest) => (number n, rest) := by
  simp only [value?, h]
  split
  case h_6 => rfl
  all_goals
    rename_i hother
    cases hother
    exact absurd hc (by decide)

end

theorem isSpace_of_isDigit {c : Char} (h : c.isDigit = true) : isSpace c = false := by
  refine Bool.eq_false_iff.2 fun hspace => ?_
  simp only [isSpace, Bool.or_eq_true, beq_iff_eq] at hspace
  rcases hspace with ((rfl | rfl) | rfl) | rfl <;> exact absurd h (by decide)

theorem toDigits_cons (n : Nat) : ∃ c r, Nat.toDigits 10 n = c :: r ∧ c.isDigit = true := by
  obtain ⟨c, r, hc⟩ := List.exists_cons_of_ne_nil (Nat.toDigits_ne_nil (n := n) (b := 10))
  exact ⟨c, r, hc, Nat.isDigit_of_mem_toDigits (by decide) (by decide) (hc ▸ List.mem_cons_self ..)⟩

theorem stringChars_append (s : String) (rest : List Char) :
    stringChars s ++ rest = '\x22' :: (s.toList.flatMap escape ++ '\x22' :: rest) := by
  simp [stringChars]

theorem chars_cons (l : Layout) (v : Json) :
    ∃ c r, chars l v = c :: r ∧ isSpace c = false ∧ c ≠ ']' := by
  cases v with
  | string s => exact ⟨'\x22', _, by rw [chars]; rfl, by decide⟩
  | number n =>
    obtain ⟨c, r, hc, hdigit⟩ := toDigits_cons n
    refine ⟨c, r, by rw [chars, hc], isSpace_of_isDigit hdigit, ?_⟩
    rintro rfl
    exact absurd hdigit (by decide)
  | bool b => cases b <;> exact ⟨_, _, by rw [chars]; rfl, by decide⟩
  | array items => exact ⟨'[', _, by rw [chars], by decide⟩
  | object members => exact ⟨'\x7b', _, by rw [chars], by decide⟩

section
variable (l : Layout) (rest : List Char)

theorem itemsChars_true (v : Json) (r : List Json) :
    itemsChars l true (v :: r) ++ rest =
      l.deeper.lineBreak ++ (chars l.deeper v ++ (itemsChars l false r ++ rest)) := by
  simp [itemsChars]

theorem itemsChars_false (v : Json) (r : List Json) :
    itemsChars l false (v :: r) = ',' :: itemsChars l true (v :: r) := by
  simp [itemsChars]

theorem membersChars_true (name : String) (v : Json) (r : List (String × Json)) :
    membersChars l true ((name, v) :: r) ++ rest =
      l.deeper.lineBreak ++ (stringChars name ++
        (l.colon ++ (chars l.deeper v ++ (membersChars l false r ++ rest)))) := by
  simp [membersChars]

theorem membersChars_false (m : String × Json) (r : List (String × Json)) :
    membersChars l false (m :: r) = ',' :: membersChars l true (m :: r) := by
  simp [membersChars]

theorem skipSpace_itemsChars_nil : skipSpace (itemsChars l false [] ++ rest) = ']' :: rest := by
  rw [itemsChars, List.append_assoc]
  exact skipSpace_lineBreak l _

theorem skipSpace_itemsChars_cons (v : Json) (r : List Json) :
    skipSpace (itemsChars l false (v :: r) ++ rest) = ',' :: (itemsChars l true (v :: r) ++ rest) := by
  rw [itemsChars_false]
  exact skipSpace_cons rfl _

theorem skipSpace_membersChars_nil :
    skipSpace (membersChars l false [] ++ rest) = '\x7d' :: rest := by
  rw [membersChars, List.append_assoc]
  exact skipSpace_lineBreak l _

theorem skipSpace_membersChars_cons (m : String × Json) (r : List (String × Json)) :
    skipSpace (membersChars l false (m :: r) ++ rest) =
      ',' :: (membersChars l true (m :: r) ++ rest) := by
  rw [membersChars_false]
  exact skipSpace_cons rfl _

theorem endsNumber_lineBreak {c : Char} (h : c.isDigit = false) :
    EndsNumber (l.lineBreak ++ c :: rest) := by
  cases l with
  | compact =>
    rintro d ⟨⟩
    exact h
  | indented level =>
    rintro d ⟨⟩
    rfl

theorem endsNumber_itemsChars (items : List Json) :
    EndsNumber (itemsChars l false items ++ rest) := by
  cases items with
  | nil =>
    rw [itemsChars, List.append_assoc]
    exact endsNumber_lineBreak l rest (by decide)
  | cons v r =>
    rw [itemsChars_false]
    rintro d ⟨⟩
    rfl

theorem endsNumber_membersChars (members : List (String × Json)) :
    EndsNumber (membersChars l false members ++ rest) := by
  cases members with
  | nil =>
    rw [membersChars, List.append_assoc]
    exact endsNumber_lineBreak l rest (by decide)
  | cons m r =>
    rw [membersChars_false]
    rintro d ⟨⟩
    rfl

def Layout.gap : Layout → List Char
  | compact => []
  | indented _ => [' ']

theorem isSpace_gap : ∀ c ∈ l.gap, isSpace c = true := by
  cases l with
  | compact => exact List.forall_mem_nil _
  | indented level => exact List.forall_mem_singleton.2 rfl

theorem memberName?_stringChars (name : String) :
    memberName? (l.deeper.lineBreak ++ (stringChars name ++ (l.colon ++ rest))) =
      some (name, l.gap ++ rest) := by
  have hcolon : l.colon ++ rest = ':' :: (l.gap ++ rest) := by cases l <;> rfl
  have hquote : skipSpace (stringChars name ++ (l.colon ++ rest)) =
      '\x22' :: (name.toList.flatMap escape ++ '\x22' :: ':' :: (l.gap ++ rest)) := by
    rw [stringChars_append, hcolon]
    exact skipSpace_cons rfl _
  have hgap : skipSpace (':' :: (l.gap ++ rest)) = ':' :: (l.gap ++ rest) := skipSpace_cons rfl _
  simp only [memberName?, skipSpace_lineBreak, hquote, stringRest?_flatMap_escape,
    Option.bind_some, hgap, String.ofList_toList]

end

section
variable (l : Layout)

theorem length_itemsChars (v : Json) (r : List Json) :
    (chars l.deeper v).length + (itemsChars l false r).length ≤ (itemsChars l true (v :: r)).length ∧
      0 < (chars l.deeper v).length ∧ 0 < (itemsChars l false r).length := by
  have hlength := congrArg List.length (itemsChars_true l [] v r)
  simp only [List.append_nil, List.length_append] at hlength
  obtain ⟨c, t, hc, -⟩ := chars_cons l.deeper v
  refine ⟨by omega, by rw [hc]; exact Nat.succ_pos _, ?_⟩
  cases r with
  | nil => simp [itemsChars]
  | cons w r => simp [itemsChars]

theorem length_membersChars (name : String) (v : Json) (r : List (String × Json)) :
    (chars l.deeper v).length + (membersChars l false r).length ≤
        (membersChars l true ((name, v) :: r)).length ∧
      0 < (chars l.deeper v).length ∧ 0 < (membersChars l false r).length := by
  have hlength := congrArg List.length (membersChars_true l [] name v r)
  simp only [List.append_nil, List.length_append] at hlength
  obtain ⟨c, t, hc, -⟩ := chars_cons l.deeper v
  refine ⟨by omega, by rw [hc]; exact Nat.succ_pos _, ?_⟩
  cases r with
  | nil => simp [membersChars]
  | cons m r => simp [membersChars]

end

theorem head?_itemsChars (l : Layout) (v : Json) (r : List Json) (rest : List Char) :
    (skipSpace (itemsChars l true (v :: r) ++ rest)).head? ≠ some ']' := by
  obtain ⟨c, t, hc, hspace, hne⟩ := chars_cons l.deeper v
  rw [itemsChars_true, skipSpace_lineBreak, hc, List.cons_append, skipSpace_cons hspace]
  exact fun h => hne (Option.some.inj h)

theorem head?_membersChars (l : Layout) (m : String × Json) (r : List (String × Json))
    (rest : List Char) : (skipSpace (membersChars l true (m :: r) ++ rest)).head? ≠ some '\x7d' := by
  rw [membersChars_true, skipSpace_lineBreak, stringChars_append, skipSpace_cons rfl,
    List.head?_cons]
  decide

-- The recursion is on the value; each part has less text, so the fuel that covers the whole
-- covers it too.
mutual

theorem value?_chars : (v : Json) → (l : Layout) → (fuel : Nat) → (rest : List Char) →
    (chars l v).length ≤ fuel → EndsNumber rest → value? fuel (chars l v ++ rest) = some (v, rest)
  | v, l, 0, rest, hfuel, _ => by
    obtain ⟨c, r, hc, -⟩ := chars_cons l v
    rw [hc] at hfuel
    exact absurd hfuel (Nat.not_succ_le_zero _)
  | string s, l, fuel + 1, rest, _, _ => by
    rw [chars, stringChars_append, value?_quote (skipSpace_cons rfl _), stringRest?_flatMap_escape]
    simp only [Option.map_some, String.ofList_toList]
  | number n, l, fuel + 1, rest, _, hrest => by
    have hread := natural?_toDigits n hrest
    obtain ⟨c, r, hc, hdigit⟩ := toDigits_cons n
    rw [hc, List.cons_append] at hread
    rw [chars, hc, List.cons_append,
      value?_digit (skipSpace_cons (isSpace_of_isDigit hdigit) _) hdigit, hread, Option.map_some]
  | bool b, l, fuel + 1, rest, _, _ => by
    cases b <;> rfl
  | array [], l, fuel + 1, rest, _, _ => rfl
  | object [], l, fuel + 1, rest, _, _ => rfl
  | array (v :: r), l, fuel + 1, rest, hfuel, _ => by
    rw [chars, List.length_cons] at hfuel
    have hitems := items?_itemsChars v r l fuel rest (Nat.le_of_succ_le_succ hfuel)
    rw [chars, List.cons_append,
      value?_array (skipSpace_cons rfl _) (head?_itemsChars l v r rest), hitems, Option.map_some]
  | object (m :: r), l, fuel + 1, rest, hfuel, _ => by
    rw [chars, List.length_cons] at hfuel
    have hmembers := members?_membersChars m r l fuel rest (Nat.le_of_succ_le_succ hfuel)
    rw [chars, List.cons_append,
      value?_object (skipSpace_cons rfl _) (head?_membersChars l m r rest), hmembers,
      Option.map_some]

theorem items?_itemsChars : (v : Json) → (r : List Json) → (l : Layout) → (fuel : Nat) →
    (rest : List Char) → (itemsChars l true (v :: r)).length ≤ fuel →
    items? fuel (itemsChars l true (v :: r) ++ rest) = some (v :: r, rest)
  | v, r, l, 0, _, hfuel => by
    have hlength := length_itemsChars l v r
    omega
  | v, r, l, fuel + 1, rest, hfuel => by
    have hlength := length_itemsChars l v r
    have hvalue := value?_chars v l.deeper fuel (itemsChars l false r ++ rest) (by omega)
      (endsNumber_itemsChars l rest r)
    rw [itemsChars_true, items?, value?_append (isSpace_lineBreak _), hvalue, Option.bind_some]
    cases r with
    | nil => simp only [skipSpace_itemsChars_nil]
    | cons w r =>
      have hrest : (itemsChars l true (w :: r)).length ≤ fuel := by
        rw [itemsChars_false, List.length_cons] at hlength
        omega
      have hitems := items?_itemsChars w r l fuel rest hrest
      simp only [skipSpace_itemsChars_cons, hitems, Option.map_some]

theorem members?_membersChars : (m : String × Json) → (r : List (String × Json)) → (l : Layout) →
    (fuel : Nat) → (rest : List Char) → (membersChars l true (m :: r)).length ≤ fuel →
    members? fuel (membersChars l true (m :: r) ++ rest) = some (m :: r, rest)
  | (name, v), r, l, 0, _, hfuel => by
    have hlength := length_membersChars l name v r
    omega
  | (name, v), r, l, fuel + 1, rest, hfuel => by
    have hlength := length_membersChars l name v r
    have hvalue := value?_chars v l.deeper fuel (membersChars l false r ++ rest) (by omega)
      (endsNumber_membersChars l rest r)
    rw [membersChars_true, members?, memberName?_stringChars, Option.bind_some]
    dsimp only
    rw [value?_append (isSpace_gap l), hvalue, Option.bind_some]
    cases r with
    | nil => simp only [skipSpace_membersChars_nil]
    | cons m r =>
      have hrest : (membersChars l true (m :: r)).length ≤ fuel := by
        rw [membersChars_false, List.length_cons] at hlength
        omega
      have hmembers := members?_membersChars m r l fuel rest hrest
      simp only [skipSpace_membersChars_cons, hmembers, Option.map_some]

end

/-- A text made of a value holds that value and nothing else. -/
theorem read?_text (pretty : Bool) (v : Json) : read? (v.text pretty) = some v := by
  unfold read? text
  generalize (if pretty then Layout.indented 0 else Layout.compact) = l
  have hvalue := value?_chars v l (chars l v).length [] (Nat.le_refl _)
    fun c hc => by cases hc
  rw [List.append_nil] at hvalue
  rw [String.length_ofList, String.toList_ofList, hvalue]
  rfl

end MarkdownToAdf.Json
