import MarkdownToAdf.Text.CharacterReference

set_option autoImplicit false

/-!
# Text that stands for itself

Without ampersands there are no references, without backslashes no escapes, and without white
space there is nothing to take off the ends of a text.
-/
namespace MarkdownToAdf.Text

theorem decodeReferences_of_not_mem {text : List Char} (h : '&' ∉ text) :
    decodeReferences text = text := by
  induction text with
  | nil => rfl
  | cons c r ih =>
    have hc : c ≠ '&' := fun heq => h (heq ▸ List.mem_cons_self ..)
    have hr := ih (List.not_mem_of_not_mem_cons h)
    rw [decodeReferences, decodeFrom, if_neg hc]
    exact congrArg (c :: ·) hr

theorem unescape_of_not_mem {text : List Char} (h : '\\' ∉ text) : unescape text = text := by
  induction text with
  | nil => rfl
  | cons c r ih =>
    have hc : c ≠ '\\' := fun heq => h (heq ▸ List.mem_cons_self ..)
    rw [unescape]
    · rw [ih (List.not_mem_of_not_mem_cons h)]
    · exact fun d r' heq _ => hc heq

theorem dropWhile_isAsciiSpace {text : List Char} (h : ∀ c ∈ text, isAsciiSpace c = false) :
    text.dropWhile isAsciiSpace = text := by
  cases text with
  | nil => rfl
  | cons c r =>
    exact List.dropWhile_cons_of_neg (Bool.eq_false_iff.1 (h c (List.mem_cons_self ..)))

theorem trim_of_isAsciiSpace {text : List Char} (h : ∀ c ∈ text, isAsciiSpace c = false) :
    trim text = text := by
  have hreverse : ∀ c ∈ text.reverse, isAsciiSpace c = false := fun c hc =>
    h c (List.mem_reverse.1 hc)
  rw [trim, trimStart, dropWhile_isAsciiSpace h, trimEnd, dropWhile_isAsciiSpace hreverse,
    List.reverse_reverse]

theorem decode_of_not_mem {text : List Char} (hreference : '&' ∉ text) (hescape : '\\' ∉ text) :
    decode text = text := by
  rw [decode, decodeReferences_of_not_mem hreference, unescape_of_not_mem hescape]

end MarkdownToAdf.Text
