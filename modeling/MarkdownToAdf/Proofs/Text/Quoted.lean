import MarkdownToAdf.Text.CharacterReference
import MarkdownToAdf.Text.Quoted
import Mathlib.Tactic.SplitIfs

set_option autoImplicit false

/-!
# Reading quoted text

The escapes can be read back one after the other, whatever stands behind them. So a quoted
text shows where it ends and which text it quotes.
-/
namespace MarkdownToAdf.Text

theorem digitChar_spec :
    ∀ d < 16, isHexDigit d.digitChar = true ∧ hexValue d.digitChar = d := by
  decide

theorem isHexDigit_of_mem_toDigits (n : Nat) : ∀ c ∈ Nat.toDigits 16 n, isHexDigit c = true := by
  induction n using Nat.strongRecOn with
  | ind n ih =>
    rw [Nat.toDigits_eq_if (by decide)]
    split
    · next h => simpa using (digitChar_spec n h).1
    · next h =>
      intro c hc
      rcases List.mem_append.1 hc with hc | hc
      · exact ih (n / 16) (by omega) c hc
      · rw [List.mem_singleton.1 hc]
        exact (digitChar_spec (n % 16) (Nat.mod_lt _ (by decide))).1

theorem numberOf_toDigits (n : Nat) : numberOf 16 (Nat.toDigits 16 n) = n := by
  induction n using Nat.strongRecOn with
  | ind n ih =>
    rw [Nat.toDigits_eq_if (by decide)]
    split
    · next h => simpa [numberOf] using (digitChar_spec n h).2
    · next h =>
      have hhigh : numberOf 16 (Nat.toDigits 16 (n / 16)) = n / 16 := ih (n / 16) (by omega)
      unfold numberOf at hhigh ⊢
      rw [List.foldl_append, hhigh, List.foldl_cons, List.foldl_nil,
        (digitChar_spec (n % 16) (Nat.mod_lt _ (by decide))).2]
      omega

/-- The character that is quoted first, with what follows it; nothing at the closing quote. -/
def readQuoted? : List Char → Option (Char × List Char)
  | '\\' :: 'u' :: '\x7b' :: r =>
    some (Char.ofNat (numberOf 16 (r.takeWhile isHexDigit)), (r.dropWhile isHexDigit).tail)
  | '\\' :: 'n' :: r => some ('\n', r)
  | '\\' :: 'r' :: r => some ('\r', r)
  | '\\' :: 't' :: r => some ('\t', r)
  | '\\' :: '0' :: r => some ('\x00', r)
  | '\\' :: c :: r => some (c, r)
  | '\x22' :: _ => none
  | c :: r => some (c, r)
  | [] => none

theorem readQuoted?_numberEscape (c : Char) (r : List Char) :
    readQuoted? (numberEscape c ++ r) = some (c, r) := by
  have hdigits := isHexDigit_of_mem_toDigits c.toNat
  have hclose : isHexDigit '\x7d' = false := by decide
  simp [numberEscape, readQuoted?, List.takeWhile_append_of_pos hdigits,
    List.dropWhile_append_of_pos hdigits, hclose, numberOf_toDigits]

theorem readQuoted?_quoteChar (c : Char) (r : List Char) :
    readQuoted? (quoteChar c ++ r) = some (c, r) := by
  unfold quoteChar
  split_ifs with _ hback
  any_goals subst c; rfl
  · exact readQuoted?_numberEscape c r
  · simp [readQuoted?, hback]

theorem quoted_inj {s t r r' : List Char}
    (h : s.flatMap quoteChar ++ '\x22' :: r = t.flatMap quoteChar ++ '\x22' :: r') :
    s = t ∧ r = r' := by
  induction s generalizing t with
  | nil =>
    cases t with
    | nil => exact ⟨rfl, List.tail_eq_of_cons_eq h⟩
    | cons d t =>
      have hread := congrArg readQuoted? h
      rw [List.flatMap_cons, List.append_assoc, readQuoted?_quoteChar] at hread
      cases hread
  | cons c s ih =>
    have hread := congrArg readQuoted? h
    rw [List.flatMap_cons, List.append_assoc, readQuoted?_quoteChar] at hread
    cases t with
    | nil => cases hread
    | cons d t =>
      rw [List.flatMap_cons, List.append_assoc, readQuoted?_quoteChar, Option.some_inj,
        Prod.mk.injEq] at hread
      obtain ⟨rfl, hrest⟩ := hread
      obtain ⟨rfl, rfl⟩ := ih hrest
      exact ⟨rfl, rfl⟩

theorem feed_not_mem_quoteChar (c : Char) : '\n' ∉ quoteChar c := by
  unfold quoteChar
  split_ifs with _ _ hfeed
  any_goals decide
  · intro h
    have hdigit : '\n' ∈ Nat.toDigits 16 c.toNat := by simpa [numberEscape] using h
    exact absurd (isHexDigit_of_mem_toDigits _ _ hdigit) (by decide)
  · simpa using Ne.symm hfeed

theorem feed_not_mem_quote (s : String) : '\n' ∉ (quote s).toList := by
  simp [quote, feed_not_mem_quoteChar]

end MarkdownToAdf.Text
