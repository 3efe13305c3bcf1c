import MarkdownToAdf.Proofs.Adf.Letters

set_option autoImplicit false

/-!
# The normal form of nodes

Joining runs is what one walk from left to right does that writes a text into the text before it
where their marks agree. Every maximal run becomes one text, and this settles the result. Two lists
have the same result exactly if they have the same letters and other nodes.
-/
namespace MarkdownToAdf.Adf

/-- Puts a node behind those that were joined before, into the last one if both are texts with the
same marks. -/
def joinBack (joined : List Node) (n : Node) : List Node :=
  match joined.getLast?, n with
  | some (.text s ms), .text t ns =>
    if ms = ns then joined.dropLast ++ [.text (s ++ t) ms] else joined ++ [n]
  | _, _ => joined ++ [n]

/-- Each maximal run of texts with the same marks has become one text with their literals, and the
other nodes are kept. A run is maximal if what follows it does not belong to it. -/
inductive RunsJoined : List Node → List Node → Prop
  | nil : RunsJoined [] []
  | run {marks : List Mark} {literals : List String} {rest joined : List Node}
    (hsome : literals ≠ []) (hends : ∀ literal, rest.head? ≠ some (.text literal marks))
    (h : RunsJoined rest joined) :
    RunsJoined (literals.map (Node.text · marks) ++ rest)
      (.text (String.join literals) marks :: joined)
  | other {n : Node} {rest joined : List Node} (hn : n.text? = none) (h : RunsJoined rest joined) :
    RunsJoined (n :: rest) (n :: joined)

theorem joinBack_nil (n : Node) : joinBack [] n = [n] := by
  cases n <;> rfl

theorem joinBack_concat (front : List Node) (last n : Node) :
    joinBack (front ++ [last]) n = front ++ joinFront last [n] := by
  unfold joinBack
  rw [List.getLast?_concat, List.dropLast_concat]
  cases last with
  | text s ms =>
    cases n with
    | text t ns =>
      by_cases h : ms = ns
      · simp [joinFront, h]
      · simp [joinFront, h]
    | _ => simp [joinFront]
  | _ => simp [joinFront]

theorem apart_head?_joinFront {m n : Node} (h : m.Apart n) (r : List Node) :
    ∀ k ∈ (joinFront n r).head?, m.Apart k := by
  obtain ⟨heq, -⟩ | ⟨s, t, ms, r', rfl, rfl, heq⟩ := joinFront_cases n r
  · rw [heq]
    rintro k ⟨⟩
    exact h
  · rw [heq]
    rintro k ⟨⟩
    exact h

theorem separated_append_joinFront {front : List Node} {last : Node}
    (h : Separated (front ++ [last])) (n : Node) : Separated (front ++ joinFront last [n]) := by
  obtain ⟨hfront, -, hlast⟩ := List.isChain_append.1 h
  refine List.isChain_append.2 ⟨hfront, separated_joinFront last [n] (.singleton n), ?_⟩
  exact fun m hm => apart_head?_joinFront (hlast m hm last rfl) [n]

theorem joinRuns_concat_of_separated {joined : List Node} (h : Separated joined) (n : Node) :
    joinRuns (joined ++ [n]) = joinBack joined n := by
  obtain rfl | ⟨front, last, rfl⟩ := List.eq_nil_or_concat joined
  · rw [joinBack_nil]
    exact joinRuns_of_separated (.singleton n)
  · rw [List.concat_eq_append] at h ⊢
    have hpair : joinRuns [last, n] = joinFront last [n] := by
      rw [joinRuns_cons, joinRuns_of_separated (.singleton n)]
    rw [joinBack_concat, List.append_assoc, List.singleton_append, ← joinRuns_append_joinRuns, hpair,
      joinRuns_of_separated (separated_append_joinFront h n)]

theorem joinRuns_concat (nodes : List Node) (n : Node) :
    joinRuns (nodes ++ [n]) = joinBack (joinRuns nodes) n := by
  rw [← joinRuns_concat_of_separated (separated_joinRuns nodes), joinRuns_joinRuns_append]

theorem foldl_joinBack (nodes : List Node) : nodes.foldl joinBack [] = joinRuns nodes := by
  induction nodes using List.reverseRecOn with
  | nil => rfl
  | append_singleton nodes n ih => rw [List.foldl_concat, ih, joinRuns_concat]

theorem RunsJoined.head? {nodes joined : List Node} (h : RunsJoined nodes joined)
    {literal : String} {marks : List Mark} (hjoined : joined.head? = some (.text literal marks)) :
    ∃ first, nodes.head? = some (.text first marks) := by
  cases h with
  | nil => cases hjoined
  | run hsome hends h =>
    cases hjoined
    obtain ⟨first, literals, rfl⟩ := List.exists_cons_of_ne_nil hsome
    exact ⟨first, rfl⟩
  | other hn h =>
    cases hjoined
    cases hn

theorem apart_of_text?_eq_none {n : Node} (h : n.text? = none) (m : Node) : n.Apart m := by
  intro hn
  rw [h] at hn
  cases hn

theorem RunsJoined.apart {marks : List Mark} {rest joined : List Node}
    (hends : ∀ literal, rest.head? ≠ some (.text literal marks)) (h : RunsJoined rest joined)
    (literal : String) : ∀ m ∈ joined.head?, (Node.text literal marks).Apart m := by
  intro m hm _ ht hmarks
  cases m with
  | text t ns =>
    obtain rfl : marks = ns := hmarks
    obtain ⟨first, hfirst⟩ := h.head? hm
    exact hends first hfirst
  | _ => cases ht

theorem RunsJoined.joinRuns_eq {nodes joined : List Node} (h : RunsJoined nodes joined) :
    joinRuns nodes = joined := by
  induction h with
  | nil => rfl
  | run hsome hends h ih =>
    obtain ⟨first, others, rfl⟩ := List.exists_cons_of_ne_nil hsome
    rw [joinRuns_append, ih, foldr_texts, joinFront_of_apart (h.apart hends _)]
  | other hn h ih =>
    rw [joinRuns_cons, ih, joinFront_of_apart fun m _ => apart_of_text?_eq_none hn m]

theorem RunsJoined.text {literal : String} {marks : List Mark} {rest joined : List Node}
    (hends : ∀ next, rest.head? ≠ some (.text next marks)) (h : RunsJoined rest joined) :
    RunsJoined (.text literal marks :: rest) (.text literal marks :: joined) := by
  have hrun := RunsJoined.run (List.cons_ne_nil literal []) hends h
  rwa [String.join_cons, String.join_nil, String.append_empty] at hrun

theorem RunsJoined.joinFront {nodes joined : List Node} (h : RunsJoined nodes joined) (n : Node) :
    RunsJoined (n :: nodes) (joinFront n joined) := by
  cases n with
  | text literal marks =>
    by_cases hends : ∀ next, nodes.head? ≠ some (.text next marks)
    · rw [joinFront_of_apart (h.apart hends literal)]
      exact .text hends h
    · -- the first run goes on in front
      obtain ⟨next, hnext⟩ := not_forall_not.1 hends
      cases h with
      | nil => cases hnext
      | run hsome hrest h =>
        obtain ⟨first, others, rfl⟩ := List.exists_cons_of_ne_nil hsome
        cases hnext
        have hrun := RunsJoined.run (List.cons_ne_nil literal (next :: others)) hrest h
        rw [String.join_cons] at hrun
        rw [Adf.joinFront, if_pos rfl]
        exact hrun
      | other hn h =>
        cases hnext
        cases hn
  | _ => exact .other rfl h

theorem runsJoined_joinRuns (nodes : List Node) : RunsJoined nodes (joinRuns nodes) := by
  induction nodes with
  | nil => exact .nil
  | cons n r ih => exact ih.joinFront n

theorem runsJoined_iff (nodes joined : List Node) :
    RunsJoined nodes joined ↔ joined = joinRuns nodes := by
  constructor
  · intro h
    exact h.joinRuns_eq.symm
  · rintro rfl
    exact runsJoined_joinRuns nodes

theorem letters_text_append (s t : String) (marks : List Mark) :
    (Node.text (s ++ t) marks).letters = (Node.text s marks).letters ++ (Node.text t marks).letters := by
  rw [Node.letters, Node.letters, Node.letters, String.toList_append, List.map_append]

theorem flatMap_letters_joinFront (n : Node) (r : List Node) :
    (joinFront n r).flatMap Node.letters = (n :: r).flatMap Node.letters := by
  obtain ⟨heq, -⟩ | ⟨s, t, ms, r', rfl, rfl, heq⟩ := joinFront_cases n r
  · rw [heq]
  · rw [heq, List.flatMap_cons, List.flatMap_cons, List.flatMap_cons, letters_text_append,
      List.append_assoc]

theorem flatMap_letters_joinRuns (nodes : List Node) :
    (joinRuns nodes).flatMap Node.letters = nodes.flatMap Node.letters := by
  induction nodes with
  | nil => rfl
  | cons n r ih =>
    rw [joinRuns_cons, flatMap_letters_joinFront, List.flatMap_cons, ih, List.flatMap_cons]

theorem joinRuns_eq_iff_letters {nodes others : List Node} (h : ∀ n ∈ nodes, n.text? ≠ some "")
    (h' : ∀ n ∈ others, n.text? ≠ some "") :
    joinRuns nodes = joinRuns others ↔ nodes.flatMap Node.letters = others.flatMap Node.letters := by
  constructor
  · intro heq
    rw [← flatMap_letters_joinRuns, heq, flatMap_letters_joinRuns]
  · intro heq
    rw [← joinRuns_flatMap_letters nodes h, heq, joinRuns_flatMap_letters others h']

/-- Joining gives what a walk from left to right gives, and nothing in it can be joined. It is the
only list in which every maximal run has become one text, and without empty texts it tells just the
letters with their marks and the other nodes. -/
theorem normalForm_joinRuns (nodes others : List Node) :
    nodes.foldl joinBack [] = joinRuns nodes ∧ Separated (joinRuns nodes) ∧
      (∀ joined, RunsJoined nodes joined ↔ joined = joinRuns nodes) ∧
      ((∀ n ∈ nodes, n.text? ≠ some "") → (∀ n ∈ others, n.text? ≠ some "") →
        (joinRuns nodes = joinRuns others ↔
          nodes.flatMap Node.letters = others.flatMap Node.letters)) :=
  ⟨foldl_joinBack nodes, separated_joinRuns nodes, runsJoined_iff nodes, joinRuns_eq_iff_letters⟩

theorem normalForm_joinRuns_recut :
    let nodes : List Node := [.text "a" [.em], .text "bc" [.em], .rule]
    let others : List Node := [.text "ab" [.em], .text "c" [.em], .rule]
    (∀ n ∈ nodes, n.text? ≠ some "") ∧ (∀ n ∈ others, n.text? ≠ some "") ∧
      joinRuns nodes = joinRuns others := by
  intro nodes others
  have hnodes : ∀ n ∈ nodes, n.text? ≠ some "" := by decide
  have hothers : ∀ n ∈ others, n.text? ≠ some "" := by decide
  obtain ⟨-, -, -, hletters⟩ := normalForm_joinRuns nodes others
  exact ⟨hnodes, hothers, (hletters hnodes hothers).2 (by decide)⟩

/-- What is joined in the middle of a list need not be joined before the whole is. -/
theorem joinRuns_absorbs (xs ys zs : List Node) :
    joinRuns (xs ++ joinRuns ys ++ zs) = joinRuns (xs ++ ys ++ zs) ∧
      joinRuns (joinRuns ys) = joinRuns ys := by
  refine ⟨?_, joinRuns_joinRuns ys⟩
  calc
    joinRuns (xs ++ joinRuns ys ++ zs) = joinRuns (xs ++ joinRuns (joinRuns ys ++ zs)) := by
      rw [List.append_assoc, joinRuns_append_joinRuns]
    _ = joinRuns (xs ++ joinRuns (ys ++ zs)) := by rw [joinRuns_joinRuns_append]
    _ = joinRuns (xs ++ ys ++ zs) := by rw [joinRuns_append_joinRuns, List.append_assoc]

end MarkdownToAdf.Adf
