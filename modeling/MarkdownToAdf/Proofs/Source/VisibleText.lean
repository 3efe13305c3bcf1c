import MarkdownToAdf.Source.OfSpan

set_option autoImplicit false

/-!
# The text that inline source shows

The text of spans can be read off the inline source that is made of them: nothing of it is lost in
breaks that are kept with texts, in links or in the labels of autolinks and images.
-/
namespace MarkdownToAdf.Source
open Markdown

mutual

/-- What is seen of an inline as plain text. A break of either kind is a space behind its text. -/
def Inline.visible : Inline → String
  | .text literal none => literal
  | .text literal (some _) => literal ++ " "
  | .code literal => literal
  | .autolink _ label _ => label
  | .image _ alt => alt
  | .html _ => ""
  | .emphasis _ children | .link _ children | .strike children | .other _ children =>
    visibleText children

def visibleText : List Inline → String
  | [] => ""
  | i :: r => i.visible ++ visibleText r

end

section
variable (table : LineTable)

theorem visibleText_kept (literal : String) (kind : LineBreak) (inlines : List Inline) :
    visibleText (.text literal (some kind) :: inlines) =
      literal ++ visibleText (.text "" (some kind) :: inlines) := by
  rw [visibleText, visibleText, Inline.visible, Inline.visible, String.empty_append,
    String.append_assoc]

theorem visibleText_inlinesOf_cons (s : Span) (r : List Span) :
    visibleText (inlinesOf table (s :: r)) =
      (inlineOf table s).visible ++ visibleText (inlinesOf table r) := by
  cases s with
  | text literal =>
    cases r with
    | nil => rfl
    | cons t r =>
      cases t with
      | softBreak => exact visibleText_kept literal .soft (inlinesOf table r)
      | hardBreak => exact visibleText_kept literal .hard (inlinesOf table r)
      | _ => rfl
  | _ => rfl

-- Images and autolinks hold the text of their children as it is, so among links only those that
-- stay links are met by the recursion.
mutual

theorem visible_inlineOf : (s : Span) → (inlineOf table s).visible = spanText s
  | .text _ | .softBreak | .hardBreak | .code _ | .html _ | .image _ _ => rfl
  | .emph children | .strong children | .strike children | .other _ children => by
    rw [inlineOf, Inline.visible, spanText, visibleText_inlinesOf children]
  | .link destination position children => by
    rw [inlineOf, spanText]
    split
    · rw [Inline.visible]
    · rw [Inline.visible, visibleText_inlinesOf children]

theorem visibleText_inlinesOf :
    (spans : List Span) → visibleText (inlinesOf table spans) = spansText spans
  | [] => rfl
  | s :: r => by
    rw [visibleText_inlinesOf_cons, visible_inlineOf s, visibleText_inlinesOf r, spansText]

end

/-- Inline source shows the text of its spans. So what a link is recognized by, and what is kept of
an image, is what their children would show as inline source. -/
theorem visibleText_eq (spans : List Span) :
    visibleText (inlinesOf table spans) = spansText spans ∧
      (∀ destination, inlineOf table (.image destination spans) =
        .image destination (visibleText (inlinesOf table spans))) ∧
      ∀ url position, inlineOf table (.link url position spans) =
        if isAutolink table position url (visibleText (inlinesOf table spans)) then
          .autolink url (visibleText (inlinesOf table spans)) (addressKind url)
        else .link url (inlinesOf table spans) := by
  have h := visibleText_inlinesOf table spans
  refine ⟨h, fun destination => ?_, fun url position => ?_⟩
  · rw [inlineOf, h]
  · rw [inlineOf, h]

example : visibleText (inlinesOf table
    [.text "a", .hardBreak, .image "u" [.emph [.text "b"], .softBreak], .html "<c>", .code "d"]) =
      "a b d" := rfl

end

end MarkdownToAdf.Source
