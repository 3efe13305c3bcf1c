import MarkdownToAdf.Proofs.Files.FileName
import MarkdownToAdf.Proofs.Format.Registered
import Mathlib.Data.List.Pairwise

set_option autoImplicit false

/-!
# Formats of files

The extension of a file tells its format. If no extension is shared, the order in which the formats
are visited does not matter, and of several formats with one name only the last one counts.
-/
namespace MarkdownToAdf.Format
open Adf Files

/-- What is detected if the formats are visited in the order of a list. -/
def detectAmong (visited : List OutputFormat) (path : String) : Option String :=
  (extension? path).bind fun e =>
    (visited.find? fun f => f.extensions.contains e).map OutputFormat.name

def Unshared (fs : List OutputFormat) : Prop :=
  fs.Pairwise fun f g => ∀ e ∈ f.extensions, e ∉ g.extensions

/-- What a registry detects after formats have been registered, if it visits those that it knows in
the order of a list. -/
structure Registry.Detects (r : Registry) (fs visited : List OutputFormat) : Prop where
  any_order : Unshared r.formats → ∀ path, detectAmong visited path = r.detect? path
  detect_iff : Unshared r.formats → ∀ path name, detectAmong visited path = some name ↔
    ∃ e, HasExtension path e ∧ ∃ f, LastNamed fs name f ∧ e ∈ f.extensions
  replaced : Unshared r.formats → ∀ f g, LastNamed fs f.name f → g.name = f.name →
    ∀ e ∈ f.extensions, e ∉ g.extensions → ∀ after, after.Perm (r.register g).formats →
      ∀ path, HasExtension path e → detectAmong after path = none
  inside : ∀ directory name tail : String, IsName name.toList → Trailing tail.toList →
    detectAmong visited (directory ++ "/" ++ name ++ tail) = detectAmong visited name
  hidden : ∀ rest : String, '.' ∉ rest.toList → '/' ∉ rest.toList →
    detectAmong visited ("." ++ rest) = none

theorem find?_eq_some_iff_of_unique {α : Type} {p : α → Bool} {l : List α}
    (h : ∀ a ∈ l, ∀ b ∈ l, p a = true → p b = true → a = b) (a : α) :
    l.find? p = some a ↔ a ∈ l ∧ p a = true := by
  constructor
  · intro hfind
    exact ⟨List.mem_of_find?_eq_some hfind, List.find?_some hfind⟩
  · rintro ⟨ha, hp⟩
    obtain ⟨b, hb⟩ := Option.isSome_iff_exists.1 (List.find?_isSome.2 ⟨a, ha, hp⟩)
    have hmem := List.mem_of_find?_eq_some hb
    rw [hb, h a ha b hmem hp (List.find?_some hb)]

theorem Registry.mem_formats_iff (r : Registry) (f : OutputFormat) :
    f ∈ r.formats ↔ ∃ name, r.get? name = some f := by
  simp [formats, get?, lookup_eq_some_iff_mem r.nodup]

theorem Registered.lastNamed_iff_mem {fs : List OutputFormat} {r : Registry} (h : Registered fs r)
    (name : String) (f : OutputFormat) : LastNamed fs name f ↔ f ∈ r.formats ∧ f.name = name := by
  rw [← h.get_iff, Registry.get_eq_ok_iff, Registry.mem_formats_iff]
  constructor
  · intro hget
    exact ⟨⟨name, hget⟩, h.name_of_get? hget⟩
  · rintro ⟨⟨key, hget⟩, rfl⟩
    rwa [h.name_of_get? hget]

section
variable {fs gs : List OutputFormat} {f g : OutputFormat} {e : String}

theorem Unshared.of_perm (h : Unshared fs) (hperm : gs.Perm fs) : Unshared gs :=
  (hperm.pairwise_iff fun hno e he he' => hno e he' he).2 h

theorem Unshared.eq_of_mem (h : Unshared fs) (hf : f ∈ fs) (hg : g ∈ fs) (he : e ∈ f.extensions)
    (he' : e ∈ g.extensions) : f = g := by
  have hsymm : Std.Symm fun f g : OutputFormat => ∀ e ∈ f.extensions, e ∉ g.extensions :=
    ⟨fun _ _ hno e he he' => hno e he' he⟩
  by_contra hne
  exact h.forall hf hg hne e he he'

theorem detectAmong_eq_some_iff (h : Unshared fs) (path name : String) :
    detectAmong fs path = some name ↔
      ∃ e, HasExtension path e ∧ ∃ f, (f ∈ fs ∧ f.name = name) ∧ e ∈ f.extensions := by
  have hfind : ∀ e f, fs.find? (fun f => f.extensions.contains e) = some f ↔
      f ∈ fs ∧ e ∈ f.extensions := by
    intro e f
    rw [find?_eq_some_iff_of_unique fun f hf g hg he he' => h.eq_of_mem hf hg
      (List.contains_iff_mem.1 he) (List.contains_iff_mem.1 he'), List.contains_iff_mem]
  simp only [detectAmong, Option.bind_eq_some_iff, Option.map_eq_some_iff, extension?_eq_some_iff,
    hfind]
  refine exists_congr fun e => and_congr_right fun _ => exists_congr fun f => ?_
  exact and_right_comm

theorem detectAmong_eq_none (h : ∀ f ∈ fs, e ∉ f.extensions) {path : String}
    (hpath : HasExtension path e) : detectAmong fs path = none := by
  have hnone : fs.find? (fun f => f.extensions.contains e) = none :=
    List.find?_eq_none.2 fun f hf => mt List.contains_iff_mem.1 (h f hf)
  rw [detectAmong, (extension?_eq_some_iff path e).2 hpath, Option.bind_some, hnone, Option.map_none]

/-- Which format is found does not depend on the order. -/
theorem detectAmong_perm (h : Unshared fs) (hperm : gs.Perm fs) (path : String) :
    detectAmong gs path = detectAmong fs path := by
  refine Option.ext fun name => ?_
  rw [detectAmong_eq_some_iff h, detectAmong_eq_some_iff (h.of_perm hperm)]
  simp only [hperm.mem_iff]

end

theorem not_mem_of_replaced {fs : List OutputFormat} {r : Registry} (hr : Registered fs r)
    (h : Unshared r.formats) {f g : OutputFormat} (hf : LastNamed fs f.name f)
    (hname : g.name = f.name) {e : String} (he : e ∈ f.extensions) (he' : e ∉ g.extensions) :
    ∀ k ∈ (r.register g).formats, e ∉ k.extensions := by
  intro k hk hek
  obtain ⟨name, hget⟩ := (Registry.mem_formats_iff _ _).1 hk
  rw [Registry.get?_register] at hget
  split at hget
  · obtain rfl := Option.some.inj hget
    exact he' hek
  · rename_i hne
    obtain ⟨hmem, -⟩ := (hr.lastNamed_iff_mem _ _).1 hf
    have hkr : k ∈ r.formats := (Registry.mem_formats_iff _ _).2 ⟨name, hget⟩
    obtain rfl := h.eq_of_mem hmem hkr he hek
    exact hne (hname.trans (hr.name_of_get? hget))

theorem detects_of_registered {fs visited : List OutputFormat} {r : Registry}
    (h : Registered fs r) (hvisited : visited.Perm r.formats) : r.Detects fs visited where
  any_order := fun hunshared path => detectAmong_perm hunshared hvisited path
  detect_iff := fun hunshared path name => by
    rw [detectAmong_perm hunshared hvisited, detectAmong_eq_some_iff hunshared]
    simp only [h.lastNamed_iff_mem]
  replaced := fun hunshared f g hf hname e he he' after hafter path hpath => by
    refine detectAmong_eq_none (fun k hk => ?_) hpath
    exact not_mem_of_replaced h hunshared hf hname he he' k (hafter.mem_iff.1 hk)
  inside := fun directory name tail hname htail => by
    have hpath : (directory ++ "/" ++ name ++ tail).toList =
        directory.toList ++ '/' :: (name.toList ++ tail.toList) := by
      simp [String.toList_append]
    have hleads : LeadsTo name.toList (directory ++ "/" ++ name ++ tail).toList :=
      hpath ▸ .inside directory.toList htail
    rw [detectAmong, detectAmong, extension?_of_leadsTo hname hleads]
  hidden := fun rest hdot hslash => by
    rw [detectAmong, extension?_hidden hdot hslash, Option.bind_none]

theorem detects_replaced_json :
    let f := OutputFormat.plain "json" "" ["jsonl"] fun _ => .ok "other"
    let r := Registry.builtIn.register f
    Registered [jsonFormat true, treeFormat, f] r ∧ [treeFormat, f].Perm r.formats ∧
      Unshared r.formats ∧ r.Detects [jsonFormat true, treeFormat, f] [treeFormat, f] := by
  intro f r
  have h : Registered [jsonFormat true, treeFormat, f] r := .register .builtIn f
  have hformats : r.formats = [f, treeFormat] := rfl
  have hvisited : [treeFormat, f].Perm r.formats := .swap f treeFormat []
  have hunshared : Unshared r.formats := by
    rw [hformats]
    exact List.pairwise_pair.2 (by decide)
  exact ⟨h, hvisited, hunshared, detects_of_registered h hvisited⟩

end MarkdownToAdf.Format
