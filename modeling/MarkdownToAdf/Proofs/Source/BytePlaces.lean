import MarkdownToAdf.Proofs.Markdown.Lines
import MarkdownToAdf.Source.OfSpan
import Mathlib.Tactic.SplitIfs

set_option autoImplicit false

/-!
# Places in texts that are written otherwise

A table of lines knows line feeds only. If each byte of a text is written in another way and the
line feeds stay, the lines stay too, and a bracket is found in its place if what is written before
it on its line is as long as it was. With carriage returns alone all of the text is one line.
-/
namespace MarkdownToAdf.Source
open Markdown Text

def behindFeeds : List UInt8 → List (List UInt8)
  | [] => []
  | b :: r => if b = 10 then r :: behindFeeds r else behindFeeds r

theorem behindFeeds_feed (r : List UInt8) : behindFeeds (10 :: r) = r :: behindFeeds r := by
  rw [behindFeeds, if_pos rfl]

theorem behindFeeds_cons {b : UInt8} (h : b ≠ 10) (r : List UInt8) :
    behindFeeds (b :: r) = behindFeeds r := by
  rw [behindFeeds, if_neg h]

theorem map_drop_startsFrom (bytes : List UInt8) :
    (rest : List UInt8) → (i : Nat) → bytes.drop i = rest →
      (startsFrom i rest).map bytes.drop = behindFeeds rest
  | [], _, _ => rfl
  | b :: r, i, h => by
    have hr : bytes.drop (i + 1) = r := by rw [← List.tail_drop, h, List.tail_cons]
    have ih := map_drop_startsFrom bytes r (i + 1) hr
    by_cases hb : b = 10
    · rw [hb, behindFeeds_feed, startsFrom, if_pos rfl, List.map_cons, hr, ih]
    · rw [behindFeeds_cons hb, startsFrom, if_neg hb, ih]

namespace LineTable

/-- What stands in a text from the beginning of a line on. -/
def fromLine? (t : LineTable) : Nat → Option (List UInt8)
  | 0 => none
  | line + 1 => t.starts[line]?.map t.bytes.drop

theorem byteAt_zero (t : LineTable) (line : Nat) : t.byteAt line 0 = none := by
  cases line <;> rfl

theorem byteAt_succ (t : LineTable) (line column : Nat) :
    t.byteAt line (column + 1) = (t.fromLine? line).bind (·[column]?) := by
  cases line with
  | zero => rfl
  | succ line =>
    rw [byteAt, fromLine?, Option.bind_map]
    congr 1
    funext start
    rw [Function.comp_apply, List.getElem?_drop]

theorem fromLine?_ofText (text : List Char) (line : Nat) :
    (ofText text).fromLine? (line + 1) = (bytesOf text :: behindFeeds (bytesOf text))[line]? := by
  have hdrop := map_drop_startsFrom (bytesOf text) (bytesOf text) 0 List.drop_zero
  rw [fromLine?, ← List.getElem?_map, ofText, List.map_cons, hdrop, List.drop_zero]

def isOnLine (t : LineTable) (p : Position) : Bool :=
  (t.fromLine? p.line).all fun rest => !(rest.take (p.column - 1)).contains 10

end LineTable

theorem flatMap_of_fixed {f : UInt8 → List UInt8} {bytes : List UInt8}
    (h : ∀ b ∈ bytes, f b = [b]) : bytes.flatMap f = bytes := by
  induction bytes with
  | nil => rfl
  | cons b r ih =>
    obtain ⟨hb, hr⟩ := List.forall_mem_cons.1 h
    rw [List.flatMap_cons, hb, ih hr, List.singleton_append]

theorem behindFeeds_append {a : List UInt8} (h : 10 ∉ a) (b : List UInt8) :
    behindFeeds (a ++ b) = behindFeeds b := by
  induction a with
  | nil => rfl
  | cons x a ih =>
    rw [List.cons_append, behindFeeds_cons (List.ne_of_not_mem_cons h).symm,
      ih (List.not_mem_of_not_mem_cons h)]

/-- What may be written for the bytes of a text without making other brackets: something for
each byte, beginning with a bracket for a bracket alone. -/
structure KeepsBrackets (f : UInt8 → List UInt8) : Prop where
  ne_nil : ∀ b, f b ≠ []
  head? : ∀ b, (f b).head? = some openingBracket ↔ b = openingBracket

/-- Does a line feed stay the end of what is written for it, and is none written elsewhere? -/
structure KeepsFeeds (f : UInt8 → List UInt8) : Prop where
  feed : ∃ a, f 10 = a ++ [10] ∧ 10 ∉ a
  other : ∀ b, b ≠ 10 → 10 ∉ f b

section
variable {f : UInt8 → List UInt8}

theorem KeepsBrackets.length_le_flatMap (hf : KeepsBrackets f) (bytes : List UInt8) :
    bytes.length ≤ (bytes.flatMap f).length := by
  induction bytes with
  | nil => exact Nat.le_refl _
  | cons b r ih =>
    have hbyte := List.length_pos_iff.2 (hf.ne_nil b)
    rw [List.flatMap_cons, List.length_append, List.length_cons]
    omega

theorem KeepsBrackets.getElem?_flatMap (hf : KeepsBrackets f) {bytes : List UInt8} {column : Nat}
    (h : ∀ b ∈ bytes.take column, (f b).length = 1) :
    (bytes.flatMap f)[column]? = some openingBracket ↔ bytes[column]? = some openingBracket := by
  induction bytes generalizing column with
  | nil => rfl
  | cons b r ih =>
    rw [List.flatMap_cons]
    cases column with
    | zero =>
      have hhead := hf.head? b
      obtain ⟨x, l, hx⟩ := List.exists_cons_of_ne_nil (hf.ne_nil b)
      rw [hx, List.head?_cons] at hhead
      rw [hx, List.cons_append, List.getElem?_cons_zero, List.getElem?_cons_zero, hhead,
        Option.some.injEq]
    | succ column =>
      rw [List.take_succ_cons] at h
      obtain ⟨hb, hr⟩ := List.forall_mem_cons.1 h
      rw [List.getElem?_append_right (by omega), hb, Nat.add_sub_cancel, List.getElem?_cons_succ]
      exact ih hr

theorem KeepsFeeds.behindFeeds_flatMap (hf : KeepsFeeds f) (bytes : List UInt8) :
    behindFeeds (bytes.flatMap f) = (behindFeeds bytes).map (·.flatMap f) := by
  induction bytes with
  | nil => rfl
  | cons b r ih =>
    rw [List.flatMap_cons]
    by_cases hb : b = 10
    · obtain ⟨a, ha, hnot⟩ := hf.feed
      rw [hb, ha, List.append_assoc, behindFeeds_append hnot, List.singleton_append,
        behindFeeds_feed, behindFeeds_feed, List.map_cons, ih]
    · rw [behindFeeds_append (hf.other b hb), behindFeeds_cons hb, ih]

end

namespace LineTable

section
variable {f : UInt8 → List UInt8} {text other : List Char}
  (hbytes : bytesOf other = (bytesOf text).flatMap f)
include hbytes

theorem fromLine?_flatMap (hf : KeepsFeeds f) (line : Nat) :
    (ofText other).fromLine? line = ((ofText text).fromLine? line).map (·.flatMap f) := by
  cases line with
  | zero => rfl
  | succ line =>
    rw [fromLine?_ofText, fromLine?_ofText, hbytes, hf.behindFeeds_flatMap, ← List.map_cons,
      List.getElem?_map]

/-- A bracket is found where it was if what is written before it on its line is as long as it
was. -/
theorem byteAt_flatMap (hf : KeepsFeeds f) (hb : KeepsBrackets f) {line column : Nat}
    (h : ∀ rest ∈ (ofText text).fromLine? line, ∀ b ∈ rest.take (column - 1), (f b).length = 1) :
    (ofText other).byteAt line column = some openingBracket ↔
      (ofText text).byteAt line column = some openingBracket := by
  cases column with
  | zero => simp only [byteAt_zero]
  | succ column =>
    rw [byteAt_succ, byteAt_succ, fromLine?_flatMap hbytes hf]
    cases hrest : (ofText text).fromLine? line with
    | none => rfl
    | some rest => exact hb.getElem?_flatMap (h rest hrest)

end

end LineTable

def writeByte (ending : LineEnd) (b : UInt8) : List UInt8 :=
  if b = 10 then bytesOf ending.chars else [b]

theorem toNat_of_mem_utf8EncodeChar {c : Char} {b : UInt8} (h : b ∈ String.utf8EncodeChar c) :
    b.toNat = c.toNat ∨ 128 ≤ b.toNat := by
  unfold String.utf8EncodeChar at h
  dsimp only at h
  split_ifs at h
  all_goals simp only [List.mem_cons, List.not_mem_nil, or_false] at h
  · left
    rw [h, UInt8.toNat_ofNat']
    exact Nat.mod_eq_of_lt (by omega)
  · right
    rcases h with rfl | rfl <;> rw [UInt8.toNat_ofNat'] <;> omega
  · right
    rcases h with rfl | rfl | rfl <;> rw [UInt8.toNat_ofNat'] <;> omega
  · right
    rcases h with rfl | rfl | rfl | rfl <;> rw [UInt8.toNat_ofNat'] <;> omega

theorem not_mem_utf8EncodeChar {c d : Char} {b : UInt8} (hd : b.toNat = d.toNat)
    (hb : b.toNat < 128) (h : c ≠ d) : b ∉ String.utf8EncodeChar c := by
  intro hmem
  rcases toNat_of_mem_utf8EncodeChar hmem with hsame | hlarge
  · have hnat : c.val.toNat = d.val.toNat := hsame.symm.trans hd
    exact h (Char.ext (UInt32.toNat_inj.1 hnat))
  · omega

section
variable (ending : LineEnd)

theorem writeByte_feed : writeByte ending 10 = bytesOf ending.chars := if_pos rfl

theorem writeByte_of_ne {b : UInt8} (h : b ≠ 10) : writeByte ending b = [b] := if_neg h

theorem bytesOf_write (text : List Char) :
    bytesOf (ending.write text) = (bytesOf text).flatMap (writeByte ending) := by
  induction text with
  | nil => rfl
  | cons c r ih =>
    have hcons : bytesOf (c :: r) = String.utf8EncodeChar c ++ bytesOf r := List.flatMap_cons
    rw [hcons, List.flatMap_append, ← ih]
    by_cases hc : c = '\n'
    · rw [hc, LineEnd.write_feed]
      cases ending <;> rfl
    · have hfeed : 10 ∉ String.utf8EncodeChar c := not_mem_utf8EncodeChar rfl (by decide) hc
      have hfixed : ∀ b ∈ String.utf8EncodeChar c, writeByte ending b = [b] := fun b hb =>
        writeByte_of_ne ending fun hten => hfeed (hten ▸ hb)
      rw [LineEnd.write_cons ending hc, flatMap_of_fixed hfixed]
      rfl

theorem keepsBrackets_writeByte : KeepsBrackets (writeByte ending) := by
  constructor
  · intro b
    unfold writeByte
    split
    · cases ending <;> exact List.cons_ne_nil _ _
    · exact List.cons_ne_nil _ _
  · intro b
    by_cases hb : b = 10
    · have hbracket : (10 : UInt8) ≠ openingBracket := by decide
      have hhead : (bytesOf ending.chars).head? ≠ some openingBracket := by
        cases ending <;> decide
      rw [hb, writeByte_feed]
      exact iff_of_false hhead hbracket
    · rw [writeByte_of_ne ending hb, List.head?_cons, Option.some.injEq]

end

theorem length_writeByte_cr (b : UInt8) : (writeByte .cr b).length = 1 := by
  unfold writeByte
  split <;> rfl

theorem length_flatMap_writeByte_cr (bytes : List UInt8) :
    (bytes.flatMap (writeByte .cr)).length = bytes.length := by
  induction bytes with
  | nil => rfl
  | cons b r ih =>
    rw [List.flatMap_cons, List.length_append, List.length_cons, ih, length_writeByte_cr,
      Nat.add_comm]

theorem behindFeeds_cr (bytes : List UInt8) :
    behindFeeds (bytes.flatMap (writeByte .cr)) = [] := by
  induction bytes with
  | nil => rfl
  | cons b r ih =>
    have hnot : 10 ∉ writeByte .cr b := by
      unfold writeByte
      split
      · decide
      · rename_i hb
        exact fun h => hb (List.mem_singleton.1 h).symm
    rw [List.flatMap_cons, behindFeeds_append hnot, ih]

theorem keepsFeeds_crlf : KeepsFeeds (writeByte .crlf) := by
  refine ⟨⟨[13], rfl, by decide⟩, fun b hb => ?_⟩
  rw [writeByte_of_ne .crlf hb]
  exact fun h => hb (List.mem_singleton.1 h).symm

namespace LineTable
variable (text : List Char)

theorem fromLine?_cr (line : Nat) :
    (ofText (LineEnd.cr.write text)).fromLine? line =
      if line = 1 then ((ofText text).fromLine? 1).map (·.flatMap (writeByte .cr)) else none := by
  match line with
  | 0 => rfl
  | 1 =>
    rw [if_pos rfl, fromLine?_ofText, fromLine?_ofText, bytesOf_write]
    rfl
  | line + 2 =>
    rw [if_neg (by omega), fromLine?_ofText, bytesOf_write, behindFeeds_cr]
    rfl

theorem byteAt_cr (line column : Nat) :
    (ofText (LineEnd.cr.write text)).byteAt line column = some openingBracket ↔
      line = 1 ∧ (ofText text).byteAt line column = some openingBracket := by
  cases column with
  | zero => simp only [byteAt_zero, reduceCtorEq, and_false]
  | succ column =>
    rw [byteAt_succ, byteAt_succ, fromLine?_cr]
    by_cases hline : line = 1
    · subst hline
      have hbracket := (keepsBrackets_writeByte .cr).getElem?_flatMap
        fun b (_ : b ∈ (bytesOf text).take column) => length_writeByte_cr b
      rw [if_pos rfl, fromLine?_ofText, List.getElem?_cons_zero]
      exact hbracket.trans (and_iff_right rfl).symm
    · rw [if_neg hline]
      exact iff_of_false nofun fun h => hline h.1

theorem byteAt_crlf {p : Position} (h : (ofText text).isOnLine p = true) :
    (ofText (LineEnd.crlf.write text)).byteAt p.line p.column = some openingBracket ↔
      (ofText text).byteAt p.line p.column = some openingBracket := by
  refine byteAt_flatMap (bytesOf_write .crlf text) keepsFeeds_crlf (keepsBrackets_writeByte .crlf)
    fun rest hrest b hb => ?_
  have hrest : (ofText text).fromLine? p.line = some rest := hrest
  rw [isOnLine, hrest, Option.all_some, Bool.not_eq_true', List.contains_eq_mem,
    decide_eq_false_iff_not] at h
  rw [writeByte_of_ne .crlf fun hten => h (hten ▸ hb)]
  rfl

end LineTable

end MarkdownToAdf.Source
