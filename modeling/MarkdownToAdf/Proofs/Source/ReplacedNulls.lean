import MarkdownToAdf.Proofs.Source.BytePlaces
import MarkdownToAdf.Proofs.Source.SameLines

set_option autoImplicit false

/-!
# Texts in which U+0000 was replaced

U+0000 is replaced when lines are read, so replacing it beforehand changes no line. But the
replacement character has three bytes, and columns are counted with them: the bracket of a link
behind U+0000 is looked for in a place that it only has in the text without.
-/
namespace MarkdownToAdf.Source
open Markdown Text

def nullBytes (b : UInt8) : List UInt8 :=
  if b = 0 then bytesOf ['\ufffd'] else [b]

theorem nullBytes_of_ne {b : UInt8} (h : b ≠ 0) : nullBytes b = [b] := if_neg h

theorem bytesOf_map_replaceNull (text : List Char) :
    bytesOf (text.map replaceNull) = (bytesOf text).flatMap nullBytes := by
  induction text with
  | nil => rfl
  | cons c r ih =>
    have hcons (d : Char) (t : List Char) : bytesOf (d :: t) = String.utf8EncodeChar d ++ bytesOf t :=
      List.flatMap_cons
    rw [List.map_cons, hcons, hcons, List.flatMap_append, ih]
    by_cases hc : c = '\x00'
    · rw [hc]
      rfl
    · have hkept : replaceNull c = c := if_neg hc
      have hnull : 0 ∉ String.utf8EncodeChar c := not_mem_utf8EncodeChar rfl (by decide) hc
      have hfixed : ∀ b ∈ String.utf8EncodeChar c, nullBytes b = [b] := fun b hb =>
        nullBytes_of_ne fun hzero => hnull (hzero ▸ hb)
      rw [hkept, flatMap_of_fixed hfixed]

theorem keepsBrackets_nullBytes : KeepsBrackets nullBytes := by
  constructor
  · intro b
    unfold nullBytes
    split
    · decide
    · exact List.cons_ne_nil _ _
  · intro b
    by_cases hb : b = 0
    · rw [hb]
      decide
    · rw [nullBytes_of_ne hb, List.head?_cons, Option.some.injEq]

theorem keepsFeeds_nullBytes : KeepsFeeds nullBytes := by
  refine ⟨⟨[], rfl, List.not_mem_nil⟩, fun b hb => ?_⟩
  unfold nullBytes
  split
  · decide
  · exact fun h => hb (List.mem_singleton.1 h).symm

/-- Is there no U+0000 on the line of a position before its place? -/
def LineTable.isBeforeNulls (t : LineTable) (p : Position) : Bool :=
  (t.fromLine? p.line).all fun rest => !(rest.take (p.column - 1)).contains 0

theorem LineTable.byteAt_map_replaceNull (text : List Char) {p : Position}
    (h : (ofText text).isBeforeNulls p = true) :
    (ofText (text.map replaceNull)).byteAt p.line p.column = some openingBracket ↔
      (ofText text).byteAt p.line p.column = some openingBracket := by
  refine byteAt_flatMap (bytesOf_map_replaceNull text) keepsFeeds_nullBytes keepsBrackets_nullBytes
    fun rest hrest b hb => ?_
  have hrest : (ofText text).fromLine? p.line = some rest := hrest
  rw [isBeforeNulls, hrest, Option.all_some, Bool.not_eq_true', List.contains_eq_mem,
    decide_eq_false_iff_not] at h
  rw [nullBytes_of_ne fun hzero => h (hzero ▸ hb)]
  rfl

theorem Link.isFound_map_replaceNull (text : List Char) (l : Link)
    (h : l.position.all (LineTable.ofText text).isBeforeNulls = true) :
    l.isFound (LineTable.ofText (text.map replaceNull)) =
      l.isFound (LineTable.ofText text) := by
  unfold isFound
  cases hposition : l.position with
  | none => rfl
  | some p =>
    rw [hposition, Option.all_some] at h
    rw [Bool.eq_iff_iff]
    simp only [Option.bind_some, beq_iff_eq, LineTable.byteAt_map_replaceNull text h]

def withoutNulls (text : String) : String :=
  String.ofList (text.toList.map replaceNull)

section
variable (text : String)

theorem withoutNulls_toList : (withoutNulls text).toList = text.toList.map replaceNull :=
  String.toList_ofList

theorem sameLines_withoutNulls : SameLines text (withoutNulls text) := by
  rw [SameLines, withoutNulls_toList, splitLines_map_replaceNull]

theorem roomOf_le_withoutNulls : roomOf text ≤ roomOf (withoutNulls text) := by
  have hlength := keepsBrackets_nullBytes.length_le_flatMap (bytesOf text.toList)
  rw [← bytesOf_map_replaceNull, ← withoutNulls_toList] at hlength
  exact Nat.max_le.2 ⟨Nat.le_max_left .., Nat.le_trans hlength (Nat.le_max_right ..)⟩

end

/-- Replacing U+0000 shows in nothing but the links that show their address: the source tree is the
same exactly if each of them is found as it was, and so is the document if no U+0000 stands on
their lines before them. -/
theorem document_withoutNulls (e : Extensions) (text : String)
    (hroom : roomOf (withoutNulls text) = roomOf text ∨
      Fit (readerOf e text).definitions (roomLeft e text)) :
    (ofMarkdown e (withoutNulls text) = ofMarkdown e text ↔
      ∀ l ∈ linksRead e text, l.FoundAlike (LineTable.ofText text.toList)
        (LineTable.ofText (withoutNulls text).toList)) ∧
    ((∀ l ∈ linksRead e text, l.showsAddress = true →
        l.position.all (LineTable.ofText text.toList).isBeforeNulls = true) →
      document (ofMarkdown e (withoutNulls text)) = document (ofMarkdown e text)) := by
  have hlines := sameLines_withoutNulls text
  have hspans := hlines.spansRead_eq e (roomOf_le_withoutNulls text) hroom
  have htree := hlines.ofMarkdown_eq_iff e hspans
  refine ⟨htree, fun hlinks => congrArg document (htree.2 fun l hl hshows => ?_)⟩
  rw [withoutNulls_toList]
  exact l.isFound_map_replaceNull text.toList (hlinks l hl hshows)

theorem document_withoutNulls_quoted_link :
    roomOf (withoutNulls "a\x00\n> [http://x](http://x)\x00") =
        roomOf "a\x00\n> [http://x](http://x)\x00" ∧
    document (ofMarkdown {} (withoutNulls "a\x00\n> [http://x](http://x)\x00")) =
      document (ofMarkdown {} "a\x00\n> [http://x](http://x)\x00") :=
  ⟨by decide +kernel,
    (document_withoutNulls {} _ (.inl (by decide +kernel))).2 (by decide +kernel)⟩

/-- Behind U+0000 on its line a link is looked for two bytes too late, and becomes a card. -/
theorem document_nulls_ne :
    document (ofMarkdown {} (withoutNulls "\x00[http://x](http://x)")) ≠
      document (ofMarkdown {} "\x00[http://x](http://x)") := by
  decide +kernel

end MarkdownToAdf.Source
