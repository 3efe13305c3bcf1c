import MarkdownToAdf.Proofs.Format.Acceptance
import MarkdownToAdf.Proofs.Text.ByteOrder

set_option autoImplicit false

/-!
# Registered formats

A registry knows exactly the formats that were registered, each by its own name, and of several
with one name the last. Nothing else about the order of registering can be seen.
-/
namespace MarkdownToAdf.Format
open Adf Text

/-- The registries that come of registering formats one after the other, with these formats in
the order of their registering. The built-in registry begins with two formats of its own. -/
inductive Registered : List OutputFormat → Registry → Prop
  | empty : Registered [] .empty
  | builtIn : Registered [jsonFormat true, treeFormat] .builtIn
  | register {fs : List OutputFormat} {r : Registry} (h : Registered fs r) (f : OutputFormat) :
    Registered (fs ++ [f]) (r.register f)

/-- Of the formats with a name this is the last one. -/
def LastNamed (fs : List OutputFormat) (name : String) (f : OutputFormat) : Prop :=
  f.name = name ∧ ∃ before after, fs = before ++ f :: after ∧ ∀ g ∈ after, g.name ≠ name

/-- What a registry answers about a name after formats have been registered. -/
structure Registry.Answers (r : Registry) (fs : List OutputFormat) (name : String) : Prop where
  get_iff : ∀ f, r.get name = .ok f ↔ LastNamed fs name f
  name_of_get : ∀ f, r.get name = .ok f → f.name = name
  has_iff_get : r.has name = true ↔ ∃ f, r.get name = .ok f
  has_iff_listed : r.has name = true ↔ name ∈ r.names
  listed_iff : name ∈ r.names ↔ ∃ f ∈ fs, f.name = name
  increasing : r.names.Pairwise fun a b => bytesOf a.toList < bytesOf b.toList
  write : ∀ f, r.get name = .ok f → ∀ d, r.write name d = f.write d
  writeWith : ∀ f, r.get name = .ok f → ∀ ps d, r.writeWith name ps d = f.writeWith ps d
  unknown : name ∉ r.names → ∀ ps d, r.get name = .error (.unknownFormat name) ∧
    r.write name d = .error (.unknownFormat name) ∧
    r.writeWith name ps d = .error (.unknownFormat name)
  others : ∀ f, f.name ≠ name → ∀ ps d, (r.register f).get name = r.get name ∧
    (r.register f).write name d = r.write name d ∧
    (r.register f).writeWith name ps d = r.writeWith name ps d

namespace Registry
variable (r : Registry) (f : OutputFormat) (name : String)

theorem get?_register :
    (r.register f).get? name = if f.name = name then some f else r.get? name := by
  split
  · rename_i h
    rw [← h]
    exact lookup_put_self f.name f r.entries
  · rename_i h
    exact lookup_put_of_ne (Ne.symm h) f r.entries

theorem get_eq_ok_iff : r.get name = .ok f ↔ r.get? name = some f := by
  unfold get
  cases r.get? name <;> simp

theorem has_eq_true_iff : r.has name = true ↔ ∃ f, r.get name = .ok f := by
  simp only [has, get_eq_ok_iff, Option.isSome_iff_exists]

theorem get_eq_error (h : name ∉ r.names) : r.get name = .error (.unknownFormat name) := by
  have hnone : r.get? name = none := by
    rw [← has_iff, has, Bool.not_eq_true, Option.isSome_eq_false_iff, Option.isNone_iff_eq_none] at h
    exact h
  rw [get, hnone]

theorem get_register_of_ne (h : f.name ≠ name) : (r.register f).get name = r.get name := by
  rw [get, get, get?_register, if_neg h]

end Registry

theorem lastNamed_iff (fs : List OutputFormat) (name : String) (f : OutputFormat) :
    LastNamed fs name f ↔ fs.reverse.find? (fun g => g.name == name) = some f := by
  rw [List.find?_eq_some_iff_append, beq_iff_eq]
  constructor
  · rintro ⟨hname, before, after, rfl, hafter⟩
    refine ⟨hname, after.reverse, before.reverse, by simp, fun g hg => ?_⟩
    simpa using hafter g (List.mem_reverse.1 hg)
  · rintro ⟨hname, after, before, hfs, hafter⟩
    refine ⟨hname, before.reverse, after.reverse, ?_, fun g hg => ?_⟩
    · rw [← List.reverse_reverse fs, hfs, List.reverse_append, List.reverse_cons,
        List.append_assoc, List.singleton_append]
    · simpa using hafter g (List.mem_reverse.1 hg)

theorem get?_register_eq {fs : List OutputFormat} {r : Registry} {name : String}
    (h : r.get? name = fs.reverse.find? fun g => g.name == name) (f : OutputFormat) :
    (r.register f).get? name = (fs ++ [f]).reverse.find? fun g => g.name == name := by
  rw [Registry.get?_register, List.reverse_concat, List.find?_cons, h]
  by_cases hname : f.name = name
  · rw [if_pos hname, beq_iff_eq.2 hname]
  · rw [if_neg hname, beq_false_of_ne hname]

theorem Registered.get?_eq {fs : List OutputFormat} {r : Registry} (h : Registered fs r)
    (name : String) : r.get? name = fs.reverse.find? fun g => g.name == name := by
  induction h with
  | empty => rfl
  | builtIn =>
    have hempty : Registry.empty.get? name = [].reverse.find? fun g => g.name == name := rfl
    exact get?_register_eq (get?_register_eq hempty (jsonFormat true)) treeFormat
  | register _ f ih => exact get?_register_eq ih f

theorem Registered.get_iff {fs : List OutputFormat} {r : Registry} (h : Registered fs r)
    (name : String) (f : OutputFormat) : r.get name = .ok f ↔ LastNamed fs name f := by
  rw [Registry.get_eq_ok_iff, h.get?_eq, lastNamed_iff]

theorem Registered.mem_names_iff {fs : List OutputFormat} {r : Registry} (h : Registered fs r)
    (name : String) : name ∈ r.names ↔ ∃ f ∈ fs, f.name = name := by
  rw [← Registry.has_iff, Registry.has, h.get?_eq, List.find?_isSome]
  simp

theorem Registered.name_of_get? {fs : List OutputFormat} {r : Registry} (h : Registered fs r)
    {name : String} {f : OutputFormat} (hget : r.get? name = some f) : f.name = name := by
  rw [h.get?_eq] at hget
  have hname := List.find?_some hget
  exact beq_iff_eq.1 hname

/-- Every format stands under its own name. -/
theorem Registered.keyed {fs : List OutputFormat} {r : Registry} (h : Registered fs r) :
    ∀ e ∈ r.entries, e.1 = e.2.name := by
  intro e he
  exact (h.name_of_get? ((lookup_eq_some_iff_mem r.nodup _ _).2 he)).symm

theorem Registry.pairwise_names (r : Registry) :
    r.names.Pairwise fun a b => bytesOf a.toList < bytesOf b.toList := by
  have htrans (a b c : String) (hab : decide (a ≤ b) = true) (hbc : decide (b ≤ c) = true) :
      decide (a ≤ c) = true :=
    decide_eq_true (String.le_trans (of_decide_eq_true hab) (of_decide_eq_true hbc))
  have htotal (a b : String) : (decide (a ≤ b) || decide (b ≤ a)) = true := by
    simpa using String.le_total a b
  have hsorted : r.names.Pairwise (· ≤ ·) :=
    (List.pairwise_mergeSort htrans htotal _).imp of_decide_eq_true
  have hnodup : r.names.Nodup := (List.mergeSort_perm _ _).nodup_iff.2 r.nodup
  refine hsorted.imp₂ (fun a b hle hne => ?_) hnodup
  have hlt : a < b := String.not_le.1 fun h => hne (String.le_antisymm hle h)
  exact bytesOf_lt (String.lt_iff.1 hlt)

theorem answers_of_registered {fs : List OutputFormat} {r : Registry} (h : Registered fs r)
    (name : String) : r.Answers fs name where
  get_iff := h.get_iff name
  name_of_get := fun f hf => ((h.get_iff name f).1 hf).1
  has_iff_get := r.has_eq_true_iff name
  has_iff_listed := r.has_iff name
  listed_iff := h.mem_names_iff name
  increasing := r.pairwise_names
  write := fun f hf d => by rw [Registry.write, hf]; rfl
  writeWith := fun f hf ps d => by rw [Registry.writeWith, hf]; rfl
  unknown := fun hname ps d => by
    rw [Registry.write, Registry.writeWith, r.get_eq_error name hname]
    exact ⟨rfl, rfl, rfl⟩
  others := fun f hname ps d => by
    rw [Registry.write, Registry.write, Registry.writeWith, Registry.writeWith,
      r.get_register_of_ne f name hname]
    exact ⟨rfl, rfl, rfl⟩

theorem answers_replaced_json :
    let f := OutputFormat.plain "json" "" [] fun _ => .ok "other"
    Registered [jsonFormat true, treeFormat, f] (Registry.builtIn.register f) ∧
      (Registry.builtIn.register f).Answers [jsonFormat true, treeFormat, f] "json" := by
  intro f
  have h : Registered [jsonFormat true, treeFormat, f] (Registry.builtIn.register f) :=
    .register .builtIn f
  exact ⟨h, answers_of_registered h "json"⟩

end MarkdownToAdf.Format
