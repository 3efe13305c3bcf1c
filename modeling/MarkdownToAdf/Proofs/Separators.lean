import Mathlib.Data.List.TakeWhile

set_option autoImplicit false

/-!
# The last separator

A list is cut where a separator stands for the last time, by looking for it from the end.
-/
namespace MarkdownToAdf
variable {α : Type} {c : α} {after l : List α}

theorem exists_last_of_mem (h : c ∈ l) : ∃ before after, l = before ++ c :: after ∧ c ∉ after := by
  obtain ⟨front, rest, heq, hfront⟩ := List.eq_append_cons_of_mem (List.mem_reverse.2 h)
  refine ⟨rest.reverse, front.reverse, ?_, fun hc => hfront (List.mem_reverse.1 hc)⟩
  rw [← List.reverse_reverse l, heq, List.reverse_append, List.reverse_cons, List.append_assoc,
    List.singleton_append]

variable [BEq α] [LawfulBEq α]

theorem ne_of_mem_reverse (h : c ∉ l) : ∀ a ∈ l.reverse, (a != c) = true :=
  fun _ ha => bne_iff_ne.2 fun heq => h (heq ▸ List.mem_reverse.1 ha)

theorem dropWhile_reverse_of_not_mem (h : c ∉ l) : l.reverse.dropWhile (· != c) = [] :=
  List.dropWhile_eq_nil_iff.2 (ne_of_mem_reverse h)

section
variable (h : c ∉ after) (before : List α)
include h

theorem takeWhile_reverse_last :
    (before ++ c :: after).reverse.takeWhile (· != c) = after.reverse := by
  rw [List.reverse_append, List.reverse_cons, List.append_assoc,
    List.takeWhile_append_of_pos (ne_of_mem_reverse h), List.singleton_append,
    List.takeWhile_cons_of_neg (by simp), List.append_nil]

theorem dropWhile_reverse_last :
    (before ++ c :: after).reverse.dropWhile (· != c) = c :: before.reverse := by
  rw [List.reverse_append, List.reverse_cons, List.append_assoc,
    List.dropWhile_append_of_pos (ne_of_mem_reverse h), List.singleton_append,
    List.dropWhile_cons_of_neg (by simp)]

end

end MarkdownToAdf
