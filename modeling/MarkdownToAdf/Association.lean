set_option autoImplicit false

/-!
# Association lists

Lists of keys and values. `put` gives a key its value and leaves all other keys as they are, so
that looking keys up afterwards finds the latest values.
-/
namespace MarkdownToAdf
variable {α β : Type} [BEq α]

/-- Gives a key a value, in the place of the one that it has. -/
def put (key : α) (value : β) : List (α × β) → List (α × β)
  | [] => [(key, value)]
  | (k, v) :: r => if k == key then (key, value) :: r else (k, v) :: put key value r

variable [LawfulBEq α]

theorem lookup_put_self (key : α) (value : β) (l : List (α × β)) :
    (put key value l).lookup key = some value := by
  induction l with
  | nil => simp [put]
  | cons e r ih =>
    obtain ⟨k, v⟩ := e
    by_cases h : k = key
    · simp [put, h]
    · simp [put, h, List.lookup_cons, beq_false_of_ne (Ne.symm h), ih]

theorem lookup_put_of_ne {key other : α} (h : other ≠ key) (value : β) (l : List (α × β)) :
    (put key value l).lookup other = l.lookup other := by
  induction l with
  | nil => simp [put, h]
  | cons e r ih =>
    obtain ⟨k, v⟩ := e
    by_cases hk : k = key
    · subst hk
      simp [put, List.lookup_cons, beq_false_of_ne h]
    · simp [put, hk, List.lookup_cons, ih]

theorem map_fst_put (key : α) (value : β) (l : List (α × β)) :
    (put key value l).map Prod.fst =
      if key ∈ l.map Prod.fst then l.map Prod.fst else l.map Prod.fst ++ [key] := by
  induction l with
  | nil => rfl
  | cons e r ih =>
    obtain ⟨k, v⟩ := e
    by_cases h : k = key
    · simp [put, h]
    · by_cases hr : key ∈ r.map Prod.fst <;> simp_all [put, Ne.symm h]

theorem nodup_put (key : α) (value : β) {l : List (α × β)} (h : (l.map Prod.fst).Nodup) :
    ((put key value l).map Prod.fst).Nodup := by
  rw [map_fst_put]
  split
  · exact h
  · rename_i hnew
    refine List.nodup_append.2 ⟨h, List.nodup_cons.2 ⟨List.not_mem_nil, List.nodup_nil⟩, ?_⟩
    rintro a ha b hb rfl
    exact hnew (List.mem_singleton.1 hb ▸ ha)

/-- If no key occurs twice, looking up finds every entry. -/
theorem lookup_eq_some_iff_mem {l : List (α × β)} (h : (l.map Prod.fst).Nodup) (key : α)
    (value : β) : l.lookup key = some value ↔ (key, value) ∈ l := by
  induction l with
  | nil => simp
  | cons e r ih =>
    obtain ⟨k, v⟩ := e
    obtain ⟨hnew, hr⟩ := List.nodup_cons.1 h
    by_cases hk : key = k
    · have hother : (key, value) ∉ r := fun hmem => hnew (List.mem_map.2 ⟨_, hmem, hk⟩)
      subst hk
      simp [hother, eq_comm]
    · simp [List.lookup_cons, beq_false_of_ne hk, hk, ih hr]

theorem lookup_eq_of_perm {l l' : List (α × β)} (hperm : l.Perm l') (h : (l.map Prod.fst).Nodup)
    (key : α) : l.lookup key = l'.lookup key := by
  have h' : (l'.map Prod.fst).Nodup := (hperm.map _).nodup_iff.1 h
  refine Option.ext fun value => ?_
  rw [lookup_eq_some_iff_mem h, lookup_eq_some_iff_mem h', hperm.mem_iff]

end MarkdownToAdf
