import MarkdownToAdf.Proofs.Separators
import MarkdownToAdf.Proofs.Source.BytePlaces
import Mathlib.Logic.ExistsUnique

set_option autoImplicit false

/-!
# Lines and columns of bytes

A table of lines leads from the line and the column of a byte back to the byte. Where a line and a
column belong to no byte, nothing is found.
-/
namespace MarkdownToAdf.Source
open Text

/-- The first line begins with the text, and each line feed is followed by one more. -/
inductive Begins (bytes : List UInt8) : Nat → Nat → Prop
  | first : Begins bytes 1 0
  | behind {before after : List UInt8} (h : bytes = before ++ 10 :: after) :
    Begins bytes (before.count 10 + 2) (before.length + 1)

def lineOf (bytes : List UInt8) (p : Nat) : Nat :=
  (bytes.take p).count 10 + 1

/-- Where the line of a byte begins: behind the last line feed before it, if there is one. -/
def startOf (bytes : List UInt8) (p : Nat) : Nat :=
  ((bytes.take p).reverse.dropWhile (· != 10)).length

def columnOf (bytes : List UInt8) (p : Nat) : Nat :=
  p - startOf bytes p + 1

/-- What is found with the table of a text: each byte by its line and column, and otherwise the byte
that is as far behind the beginning of the line as the column says, if there is one. -/
structure LineTable.Locates (t : LineTable) (text : List Char) : Prop where
  byteAt_own : ∀ p (h : p < (bytesOf text).length),
    t.byteAt (lineOf (bytesOf text) p) (columnOf (bytesOf text) p) = some (bytesOf text)[p]
  begins_own : ∀ p, Begins (bytesOf text) (lineOf (bytesOf text) p) (startOf (bytesOf text) p)
  no_line : ∀ column, t.byteAt 0 column = none
  no_column : ∀ line, t.byteAt line 0 = none
  beyond : ∀ line column, text.count '\n' + 1 < line → t.byteAt line column = none
  begins : ∀ line, 0 < line → line ≤ text.count '\n' + 1 → ∃! start, Begins (bytesOf text) line start
  byteAt_eq : ∀ line start column, Begins (bytesOf text) line start → 0 < column →
    t.byteAt line column = (bytesOf text)[start + column - 1]?

theorem count_utf8EncodeChar (c : Char) :
    (String.utf8EncodeChar c).count 10 = if c = '\n' then 1 else 0 := by
  by_cases hc : c = '\n'
  · subst hc
    rfl
  · have hfeed : 10 ∉ String.utf8EncodeChar c := not_mem_utf8EncodeChar rfl (by decide) hc
    rw [List.count_eq_zero_of_not_mem hfeed, if_neg hc]

theorem count_bytesOf (text : List Char) : (bytesOf text).count 10 = text.count '\n' := by
  induction text with
  | nil => rfl
  | cons c r ih =>
    have hcons : bytesOf (c :: r) = String.utf8EncodeChar c ++ bytesOf r := List.flatMap_cons
    rw [hcons, List.count_append, count_utf8EncodeChar, ih, List.count_cons, Nat.add_comm]
    simp only [beq_iff_eq]

theorem length_behindFeeds (bytes : List UInt8) : (behindFeeds bytes).length = bytes.count 10 := by
  induction bytes with
  | nil => rfl
  | cons b r ih =>
    by_cases hb : b = 10
    · rw [hb, behindFeeds_feed, List.length_cons, List.count_cons_self, ih]
    · rw [behindFeeds_cons hb, ih, List.count_cons_of_ne hb]

theorem getElem?_behindFeeds_iff (bytes rest : List UInt8) (k : Nat) :
    (behindFeeds bytes)[k]? = some rest ↔
      ∃ before, bytes = before ++ 10 :: rest ∧ before.count 10 = k := by
  constructor
  · intro h
    induction bytes generalizing k with
    | nil => cases h
    | cons b r ih =>
      by_cases hb : b = 10
      · subst hb
        rw [behindFeeds_feed] at h
        cases k with
        | zero =>
          cases h
          exact ⟨[], rfl, rfl⟩
        | succ k =>
          obtain ⟨before, rfl, hcount⟩ := ih k h
          exact ⟨10 :: before, rfl, by rw [List.count_cons_self, hcount]⟩
      · rw [behindFeeds_cons hb] at h
        obtain ⟨before, rfl, hcount⟩ := ih k h
        exact ⟨b :: before, rfl, by rw [List.count_cons_of_ne hb, hcount]⟩
  · rintro ⟨before, rfl, rfl⟩
    induction before with
    | nil => rw [List.nil_append, behindFeeds_feed]; rfl
    | cons b before ih =>
      by_cases hb : b = 10
      · rw [hb, List.cons_append, behindFeeds_feed, List.count_cons_self]
        exact ih
      · rw [List.cons_append, behindFeeds_cons hb, List.count_cons_of_ne hb]
        exact ih

theorem exists_begins {bytes : List UInt8} {line : Nat} (hpos : 0 < line)
    (hline : line ≤ bytes.count 10 + 1) : ∃ start, Begins bytes line start := by
  match line with
  | 1 => exact ⟨0, .first⟩
  | k + 2 =>
    have hk : k < (behindFeeds bytes).length := by
      rw [length_behindFeeds]
      omega
    obtain ⟨before, h, rfl⟩ := (getElem?_behindFeeds_iff bytes _ k).1 (List.getElem?_eq_getElem hk)
    exact ⟨before.length + 1, .behind h⟩

theorem Begins.unique {bytes : List UInt8} {line start other : Nat} (h : Begins bytes line start)
    (h' : Begins bytes line other) : start = other := by
  cases h with
  | first =>
    cases h'
    rfl
  | @behind before after hbytes =>
    generalize hline : before.count 10 + 2 = line at h'
    cases h' with
    | first => omega
    | @behind before' after' hbytes' =>
      -- what is left behind the same number of line feeds is the same
      have hafter := (getElem?_behindFeeds_iff bytes after _).2 ⟨before, hbytes, rfl⟩
      have hafter' := (getElem?_behindFeeds_iff bytes after' (before.count 10)).2
        ⟨before', hbytes', by omega⟩
      obtain rfl := Option.some.inj (hafter.symm.trans hafter')
      have hlength := congrArg List.length (hbytes.symm.trans hbytes')
      simp only [List.length_append, List.length_cons] at hlength
      omega

theorem startOf_le (bytes : List UInt8) (p : Nat) : startOf bytes p ≤ p := by
  have hdrop := (List.dropWhile_suffix (· != 10) (l := (bytes.take p).reverse)).length_le
  rw [List.length_reverse, List.length_take] at hdrop
  exact Nat.le_trans hdrop (Nat.min_le_left p _)

theorem begins_startOf (bytes : List UInt8) (p : Nat) :
    Begins bytes (lineOf bytes p) (startOf bytes p) := by
  unfold lineOf startOf
  by_cases hfeed : 10 ∈ bytes.take p
  · obtain ⟨before, after, htake, hafter⟩ := exists_last_of_mem hfeed
    have hbytes : bytes = before ++ 10 :: (after ++ bytes.drop p) := by
      rw [← List.cons_append, ← List.append_assoc, ← htake, List.take_append_drop]
    have hcount : (bytes.take p).count 10 = before.count 10 + 1 := by
      rw [htake, List.count_append, List.count_cons_self, List.count_eq_zero_of_not_mem hafter]
    rw [hcount, htake, dropWhile_reverse_last hafter, List.length_cons, List.length_reverse]
    exact .behind hbytes
  · rw [List.count_eq_zero_of_not_mem hfeed, dropWhile_reverse_of_not_mem hfeed]
    exact .first

theorem byteAt_of_begins {text : List Char} {line start : Nat}
    (h : Begins (bytesOf text) line start) (column : Nat) :
    (LineTable.ofText text).byteAt line (column + 1) = (bytesOf text)[start + column]? := by
  cases h with
  | first => rw [LineTable.byteAt_succ, LineTable.fromLine?_ofText, Nat.zero_add]; rfl
  | @behind before after hbytes =>
    have hafter := (getElem?_behindFeeds_iff _ after _).2 ⟨before, hbytes, rfl⟩
    rw [LineTable.byteAt_succ, LineTable.fromLine?_ofText, List.getElem?_cons_succ, hafter,
      Option.bind_some, hbytes, List.getElem?_append_right (by omega)]
    have hplace : before.length + 1 + column - before.length = column + 1 := by omega
    rw [hplace, List.getElem?_cons_succ]

theorem byteAt_beyond (text : List Char) (line column : Nat) (h : text.count '\n' + 1 < line) :
    (LineTable.ofText text).byteAt line column = none := by
  cases column with
  | zero => exact LineTable.byteAt_zero _ line
  | succ column =>
    obtain ⟨k, rfl⟩ := Nat.exists_eq_add_one_of_ne_zero (Nat.ne_zero_of_lt h)
    have hlength : (bytesOf text :: behindFeeds (bytesOf text)).length ≤ k := by
      rw [List.length_cons, length_behindFeeds, count_bytesOf]
      omega
    rw [LineTable.byteAt_succ, LineTable.fromLine?_ofText, List.getElem?_eq_none hlength,
      Option.bind_none]

theorem locates_ofText (text : List Char) : (LineTable.ofText text).Locates text where
  byteAt_own := fun p h => by
    have hplace : startOf (bytesOf text) p + (p - startOf (bytesOf text) p) = p :=
      Nat.add_sub_cancel' (startOf_le _ p)
    rw [columnOf, byteAt_of_begins (begins_startOf _ p), hplace, List.getElem?_eq_getElem h]
  begins_own := begins_startOf (bytesOf text)
  no_line := fun _ => rfl
  no_column := LineTable.byteAt_zero _
  beyond := byteAt_beyond text
  begins := fun line hpos hline => by
    rw [← count_bytesOf] at hline
    obtain ⟨start, h⟩ := exists_begins hpos hline
    exact ⟨start, h, fun _ h' => h'.unique h⟩
  byteAt_eq := fun line start column h hpos => by
    obtain ⟨k, rfl⟩ := Nat.exists_eq_add_one_of_ne_zero (Nat.ne_of_gt hpos)
    exact byteAt_of_begins h k

end MarkdownToAdf.Source
