import MarkdownToAdf.Proofs.Source.BytePlaces
import MarkdownToAdf.Proofs.Source.SameLines

set_option autoImplicit false

/-!
# Texts with other line ends

How the lines of a text end makes no difference to the lines that are read. What may differ is
whether a link is found behind its bracket: carriage returns leave a text one line only, and with
both characters a place moves if a line end comes before it.
-/
namespace MarkdownToAdf.Source
open Markdown

/-- With other line ends, is a link found as it was? Carriage returns leave a text one line
only, and with both characters it is enough that its position stays on its line. -/
def Link.staysFound (ending : LineEnd) (table : LineTable) (l : Link) : Bool :=
  match ending with
  | .cr => !l.isFound table || l.position.any (·.line == 1)
  | .crlf => l.position.all table.isOnLine

namespace Link
variable (text : List Char) (l : Link)

theorem isFound_cr :
    l.isFound (LineTable.ofText (LineEnd.cr.write text)) =
      (l.isFound (LineTable.ofText text) && l.position.any (·.line == 1)) := by
  unfold isFound
  cases l.position with
  | none => rfl
  | some p =>
    have hbyte := LineTable.byteAt_cr text p.line p.column
    rw [Bool.eq_iff_iff]
    simp only [Option.bind_some, Option.any_some, beq_iff_eq, Bool.and_eq_true, hbyte,
      and_comm]

theorem isFound_crlf (h : l.position.all (LineTable.ofText text).isOnLine = true) :
    l.isFound (LineTable.ofText (LineEnd.crlf.write text)) =
      l.isFound (LineTable.ofText text) := by
  unfold isFound
  cases hposition : l.position with
  | none => rfl
  | some p =>
    rw [hposition, Option.all_some] at h
    rw [Bool.eq_iff_iff]
    simp only [Option.bind_some, beq_iff_eq, LineTable.byteAt_crlf text h]

theorem isFound_write (ending : LineEnd)
    (h : l.staysFound ending (LineTable.ofText text) = true) :
    l.isFound (LineTable.ofText (ending.write text)) = l.isFound (LineTable.ofText text) := by
  cases ending with
  | cr =>
    rw [isFound_cr]
    simp only [staysFound, Bool.or_eq_true, Bool.not_eq_true'] at h
    rcases h with hnot | hline
    · rw [hnot, Bool.false_and]
    · rw [hline, Bool.and_true]
  | crlf => exact isFound_crlf text l h

end Link

def withEnds (ending : LineEnd) (text : String) : String :=
  String.ofList (ending.write text.toList)

theorem withEnds_toList (ending : LineEnd) (text : String) :
    (withEnds ending text).toList = ending.write text.toList := String.toList_ofList

section
variable (ending : LineEnd)

theorem roomOf_withEnds_cr (text : String) : roomOf (withEnds .cr text) = roomOf text := by
  have hlength := length_flatMap_writeByte_cr (Text.bytesOf text.toList)
  rw [← bytesOf_write, ← withEnds_toList] at hlength
  exact congrArg (max 100000) hlength

theorem roomOf_le_withEnds (text : String) : roomOf text ≤ roomOf (withEnds ending text) := by
  have hlength := (keepsBrackets_writeByte ending).length_le_flatMap (Text.bytesOf text.toList)
  rw [← bytesOf_write, ← withEnds_toList] at hlength
  exact Nat.max_le.2 ⟨Nat.le_max_left .., Nat.le_trans hlength (Nat.le_max_right ..)⟩

theorem sameLines_withEnds {text : String} (h : '\r' ∉ text.toList) :
    SameLines text (withEnds ending text) := by
  rw [SameLines, withEnds_toList, splitLines_write ending h]

theorem spansRead_withEnds (e : Extensions) {text : String} (h : '\r' ∉ text.toList)
    (hroom : roomOf (withEnds ending text) = roomOf text ∨
      Fit (readerOf e text).definitions (roomLeft e text)) :
    spansRead e (withEnds ending text) = spansRead e text :=
  (sameLines_withEnds ending h).spansRead_eq e (roomOf_le_withEnds ending text) hroom

end

theorem room_withEnds {e : Extensions} {ending : LineEnd} {text : String}
    (hroom : ending = .crlf → roomOf (withEnds ending text) = roomOf text ∨
      Fit (readerOf e text).definitions (roomLeft e text)) :
    roomOf (withEnds ending text) = roomOf text ∨
      Fit (readerOf e text).definitions (roomLeft e text) := by
  cases ending with
  | cr => exact .inl (roomOf_withEnds_cr text)
  | crlf => exact hroom rfl

theorem ofMarkdown_withEnds_iff {e : Extensions} {ending : LineEnd} {text : String}
    (h : '\r' ∉ text.toList)
    (hspans : spansRead e (withEnds ending text) = spansRead e text) :
    ofMarkdown e (withEnds ending text) = ofMarkdown e text ↔
      ∀ l ∈ linksRead e text, l.FoundAlike (LineTable.ofText text.toList)
        (LineTable.ofText (withEnds ending text).toList) :=
  (sameLines_withEnds ending h).ofMarkdown_eq_iff e hspans

/-- How the lines of a text end shows in nothing but the links that show their address: the
source tree is the same exactly if each of them is found as it was, and so is the document if
they stay where the table of lines finds them. -/
theorem document_withEnds (e : Extensions) (ending : LineEnd) (text : String)
    (h : '\r' ∉ text.toList)
    (hroom : ending = .crlf → roomOf (withEnds ending text) = roomOf text ∨
      Fit (readerOf e text).definitions (roomLeft e text)) :
    (ofMarkdown e (withEnds ending text) = ofMarkdown e text ↔
      ∀ l ∈ linksRead e text, l.FoundAlike (LineTable.ofText text.toList)
        (LineTable.ofText (withEnds ending text).toList)) ∧
    ((∀ l ∈ linksRead e text, l.showsAddress = true →
        l.staysFound ending (LineTable.ofText text.toList) = true) →
      document (ofMarkdown e (withEnds ending text)) = document (ofMarkdown e text)) := by
  have hspans := spansRead_withEnds ending e h (room_withEnds hroom)
  have htree := ofMarkdown_withEnds_iff h hspans
  refine ⟨htree, fun hlinks => congrArg document (htree.2 fun l hl hshows => ?_)⟩
  rw [withEnds_toList]
  exact l.isFound_write text.toList ending (hlinks l hl hshows)

theorem document_withEnds_quoted_link :
    ('\r' ∉ "> a\n> [http://x](http://x)".toList ∧
      roomOf (withEnds .crlf "> a\n> [http://x](http://x)") =
        roomOf "> a\n> [http://x](http://x)") ∧
    document (ofMarkdown {} (withEnds .crlf "> a\n> [http://x](http://x)")) =
      document (ofMarkdown {} "> a\n> [http://x](http://x)") :=
  ⟨by decide +kernel,
    (document_withEnds {} .crlf _ (by decide +kernel) fun _ => .inl (by decide +kernel)).2
      (by decide +kernel)⟩

/-- A link below a carriage return is not found any more, and becomes a card. -/
theorem document_returns_ne :
    '\r' ∉ "a\n[http://x](http://x)".toList ∧
      document (ofMarkdown {} (withEnds .cr "a\n[http://x](http://x)")) ≠
        document (ofMarkdown {} "a\n[http://x](http://x)") := by
  decide +kernel

end MarkdownToAdf.Source
