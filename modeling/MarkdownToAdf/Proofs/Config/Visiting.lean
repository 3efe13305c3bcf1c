import MarkdownToAdf.Proofs.Config.Setting

set_option autoImplicit false

/-!
# Settings in any order of visiting

However the entries of a file are visited, the values that it has for a setting are the same up to
their order. So the order matters only for a setting that the file has several values for.
-/
namespace MarkdownToAdf.Config
open Toml

variable {β : Type} {es es' : Entries}

theorem map_perm_of_visited (h : Visited es es') {g : String × Toml → β}
    (hg : ∀ key kind inner inner', g (key, .table kind inner) = g (key, .table kind inner')) :
    (es'.map g).Perm (es.map g) := by
  induction h with
  | refl es => exact .refl _
  | inside key kind h es ih => rw [List.map_cons, List.map_cons, hg key kind]
  | behind e h ih => exact ih.cons _
  | swap e f es => exact .swap _ _ _
  | trans h h' ih ih' => exact ih'.trans ih

theorem placed_table (key : String) (kind : TableKind) (inner : Entries) :
    placed (key, .table kind inner) =
      if (placeOf key).steps = [] then
        inner.map fun e => (⟨(placeOf key).first, [.key e.1]⟩, e.2)
      else [(placeOf key, .table kind inner)] := by
  unfold placed
  split
  · rename_i first _ es hplace htable
    cases htable
    rw [hplace, if_pos rfl]
  · rename_i place v hother
    rw [if_neg fun hsteps => hother (placeOf key).first kind inner ?_ rfl]
    cases hplace : placeOf key with
    | mk first steps => rw [hplace] at hsteps; exact congrArg _ hsteps

theorem map_placed_perm (h : Visited es es') {g : Place × Toml → β}
    (hg : ∀ place kind inner inner', g (place, .table kind inner) = g (place, .table kind inner')) :
    ((es'.flatMap placed).map g).Perm ((es.flatMap placed).map g) := by
  induction h with
  | refl es => exact .refl _
  | @inside key kind inner inner' h es ih =>
    rw [List.flatMap_cons, List.flatMap_cons, List.map_append, List.map_append]
    refine .append_right _ ?_
    rw [placed_table, placed_table]
    split
    · rw [List.map_map, List.map_map]
      exact map_perm_of_visited h fun _ _ _ _ => hg _ _ _ _
    · rw [List.map_singleton, List.map_singleton, hg _ kind inner inner']
  | behind e h ih =>
    rw [List.flatMap_cons, List.flatMap_cons, List.map_append, List.map_append]
    exact ih.append_left _
  | swap e f es =>
    simp only [List.flatMap_cons, List.map_append, ← List.append_assoc]
    exact .append_right _ List.perm_append_comm
  | trans h h' ih ih' => exact ih'.trans ih

theorem SettingKind.read?_table (kind : SettingKind) (k : TableKind) (inner : Entries) :
    kind.read? (.table k inner) = none := by
  cases kind <;> rfl

section
variable (h : Visited es es') (s : Setting)
include h

theorem values_perm : (s.values es').Perm (s.values es) := by
  have hread : ∀ place kind inner inner',
      s.read? (place, .table kind inner) = s.read? (place, .table kind inner') := by
    intro place kind inner inner'
    rw [Setting.read?, Setting.read?, s.kind.read?_table, s.kind.read?_table]
  have hmap := (map_placed_perm h hread).filterMap id
  rwa [List.filterMap_map, List.filterMap_map] at hmap

theorem all_allows_of_visited (hes : (es.flatMap placed).all s.allows = true) :
    (es'.flatMap placed).all s.allows = true := by
  have hallows : ∀ place kind inner inner',
      s.allows (place, .table kind inner) = s.allows (place, .table kind inner') := by
    intro place kind inner inner'
    rw [Setting.allows, Setting.allows, s.kind.read?_table, s.kind.read?_table]
  refine List.all_eq_true.2 fun p hp => ?_
  obtain ⟨q, hq, heq⟩ := List.mem_map.1 ((map_placed_perm h hallows).mem_iff.1
    (List.mem_map_of_mem hp))
  rw [← heq]
  exact List.all_eq_true.1 hes q hq

/-- A setting that is written once has the same value in every order. -/
theorem inEntries?_of_visited (honce : (s.values es).length ≤ 1) :
    s.inEntries? es' = s.inEntries? es := by
  have hperm := values_perm h s
  have hsame : s.values es' = s.values es := by
    cases hvalues : s.values es with
    | nil => exact (hvalues ▸ hperm).eq_nil
    | cons a r =>
      rw [hvalues, List.length_cons] at honce
      obtain rfl : r = [] := List.length_eq_zero_iff.1 (by omega)
      rw [hvalues] at hperm
      exact List.perm_singleton.1 hperm
  exact congrArg List.getLast? hsame

end

/-- A setting that is written twice has the value that is visited last. -/
example :
    let first : String × Toml := ("parser", .table .header [("table", .boolean true)])
    let second : String × Toml := ("PARSER", .table .header [("table", .boolean false)])
    Setting.table.inEntries? [first, second] = some (.boolean false) ∧
      Setting.table.inEntries? [second, first] = some (.boolean true) := by
  decide

theorem Setting.AllowsAll.of_visited (h : Visited es es') (hes : Setting.AllowsAll es) :
    Setting.AllowsAll es' :=
  fun s => all_allows_of_visited h s (hes s)

end MarkdownToAdf.Config
