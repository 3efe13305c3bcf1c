import MarkdownToAdf.Adf.Runs
import MarkdownToAdf.Proofs.Adf.Grammar

set_option autoImplicit false

/-!
# What joining runs keeps

Joining never leaves two texts side by side that could be joined, and it keeps whatever holds
of all nodes and of two texts put together.
-/
namespace MarkdownToAdf.Adf

theorem joinFront_cases (n : Node) (r : List Node) :
    joinFront n r = n :: r ∧ (∀ m ∈ r.head?, n.Apart m) ∨
      ∃ s t ms r', n = .text s ms ∧ r = .text t ms :: r' ∧
        joinFront n r = .text (s ++ t) ms :: r' := by
  fun_cases joinFront n r with
  | case1 s t ms r => exact .inr ⟨s, t, ms, r, rfl, rfl, rfl⟩
  | case2 s ms t ns r hne =>
    refine .inl ⟨rfl, fun m hm _ _ => ?_⟩
    cases hm
    exact hne
  | case3 n r hno =>
    refine .inl ⟨rfl, fun m hm hn ht => ?_⟩
    cases n <;> cases m <;> cases hn <;> cases ht
    obtain ⟨r', rfl⟩ := List.head?_eq_some_iff.1 hm
    exact absurd rfl (hno _ _ _ _ _ rfl)

theorem joinFront_of_apart {n : Node} {r : List Node} (h : ∀ m ∈ r.head?, n.Apart m) :
    joinFront n r = n :: r := by
  obtain ⟨heq, -⟩ | ⟨s, t, ms, r', rfl, rfl, -⟩ := joinFront_cases n r
  · exact heq
  · exact absurd rfl (h (.text t ms) rfl rfl rfl)

theorem separated_joinFront (n : Node) (r : List Node) (h : Separated r) :
    Separated (joinFront n r) := by
  obtain ⟨heq, hapart⟩ | ⟨s, t, ms, r', rfl, rfl, heq⟩ := joinFront_cases n r
  · rw [heq]
    exact List.isChain_cons.2 ⟨hapart, h⟩
  · rw [heq]
    obtain ⟨hapart, hr⟩ := List.isChain_cons.1 h
    exact List.isChain_cons.2 ⟨fun m hm _ ht => hapart m hm rfl ht, hr⟩

theorem separated_joinRuns (nodes : List Node) : Separated (joinRuns nodes) := by
  induction nodes with
  | nil => exact .nil
  | cons n r ih => exact separated_joinFront n _ ih

theorem joinRuns_of_separated {nodes : List Node} (h : Separated nodes) :
    joinRuns nodes = nodes := by
  induction nodes with
  | nil => rfl
  | cons n r ih =>
    obtain ⟨hhead, hr⟩ := List.isChain_cons.1 h
    rw [joinRuns_cons, ih hr, joinFront_of_apart hhead]

theorem joinRuns_joinRuns (nodes : List Node) : joinRuns (joinRuns nodes) = joinRuns nodes :=
  joinRuns_of_separated (separated_joinRuns nodes)

theorem forall_joinFront {P : Node → Prop}
    (hP : ∀ s t ms, P (.text s ms) → P (.text t ms) → P (.text (s ++ t) ms))
    (n : Node) (r : List Node) (hn : P n) (hr : ∀ m ∈ r, P m) : ∀ m ∈ joinFront n r, P m := by
  obtain ⟨heq, -⟩ | ⟨s, t, ms, r', rfl, rfl, heq⟩ := joinFront_cases n r
  · rw [heq]
    exact List.forall_mem_cons.2 ⟨hn, hr⟩
  · rw [heq]
    obtain ⟨ht, hr'⟩ := List.forall_mem_cons.1 hr
    exact List.forall_mem_cons.2 ⟨hP s t ms hn ht, hr'⟩

theorem forall_joinRuns {P : Node → Prop}
    (hP : ∀ s t ms, P (.text s ms) → P (.text t ms) → P (.text (s ++ t) ms))
    (nodes : List Node) (h : ∀ n ∈ nodes, P n) : ∀ n ∈ joinRuns nodes, P n := by
  induction nodes with
  | nil => exact h
  | cons n r ih =>
    obtain ⟨hn, hr⟩ := List.forall_mem_cons.1 h
    exact forall_joinFront hP n _ hn (ih hr)

theorem joinFront_joinFront_text (s t : String) (marks : List Mark) (r : List Node) :
    joinFront (.text s marks) (joinFront (.text t marks) r) =
      joinFront (.text (s ++ t) marks) r := by
  cases r with
  | nil => simp [joinFront]
  | cons n r =>
    cases n with
    | text u ns =>
      by_cases h : marks = ns
      · simp [joinFront, h, String.append_assoc]
      · simp [joinFront, h]
    | _ => simp [joinFront]

theorem foldr_texts (marks : List Mark) (literal : String) (literals : List String)
    (r : List Node) :
    ((literal :: literals).map (Node.text · marks)).foldr joinFront r =
      joinFront (.text (String.join (literal :: literals)) marks) r := by
  induction literals generalizing literal with
  | nil =>
    rw [String.join_cons, String.join_nil, String.append_empty]
    rfl
  | cons next literals ih =>
    rw [List.map_cons, List.foldr_cons, ih next, joinFront_joinFront_text, ← String.join_cons]

theorem joinRuns_append (a b : List Node) :
    joinRuns (a ++ b) = a.foldr joinFront (joinRuns b) := by
  induction a with
  | nil => rfl
  | cons n a ih => rw [List.cons_append, joinRuns_cons, ih, List.foldr_cons]

theorem joinRuns_joinFront_append (n : Node) (r b : List Node) :
    joinRuns (joinFront n r ++ b) = joinFront n (joinRuns (r ++ b)) := by
  obtain ⟨heq, -⟩ | ⟨s, t, ms, r', rfl, rfl, heq⟩ := joinFront_cases n r
  · rw [heq, List.cons_append, joinRuns_cons]
  · rw [heq, List.cons_append, List.cons_append, joinRuns_cons, joinRuns_cons,
      joinFront_joinFront_text]

/-- Runs that were joined before go into those that begin in front of what follows. -/
theorem joinRuns_joinRuns_append (a b : List Node) : joinRuns (joinRuns a ++ b) = joinRuns (a ++ b) := by
  induction a with
  | nil => rfl
  | cons n a ih =>
    rw [joinRuns_cons, joinRuns_joinFront_append, ih, List.cons_append, joinRuns_cons]

theorem joinRuns_append_joinRuns (a b : List Node) : joinRuns (a ++ joinRuns b) = joinRuns (a ++ b) := by
  rw [joinRuns_append, joinRuns_append, joinRuns_joinRuns]

end MarkdownToAdf.Adf
