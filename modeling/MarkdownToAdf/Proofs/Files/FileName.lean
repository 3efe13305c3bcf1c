import MarkdownToAdf.Files.FileName
import MarkdownToAdf.Proofs.Separators

set_option autoImplicit false

/-!
# The last part of a path

A path leads to a name if nothing but slashes and single dots stands behind it. The extension is
what follows the last dot of that name. Neither the directories in front of the name nor what stands
behind it matters.
-/
namespace MarkdownToAdf.Files

/-- What may stand behind the last name of a path: slashes, and single dots behind slashes. -/
inductive Trailing : List Char → Prop
  | nil : Trailing []
  | slash {tail : List Char} (h : Trailing tail) : Trailing (tail ++ ['/'])
  | dot {tail : List Char} (h : Trailing tail) : Trailing (tail ++ ['/', '.'])

/-- A name of something in a directory. One dot and two dots stand for the directory itself and for
the one above it. -/
structure IsName (name : List Char) : Prop where
  ne_nil : name ≠ []
  slash : '/' ∉ name
  ne_dot : name ≠ ['.']
  ne_dots : name ≠ ['.', '.']

/-- A path leads to what it says last, alone or behind the directories that it is in. -/
inductive LeadsTo (name : List Char) : List Char → Prop
  | alone {tail : List Char} (h : Trailing tail) : LeadsTo name (name ++ tail)
  | inside (directory : List Char) {tail : List Char} (h : Trailing tail) :
    LeadsTo name (directory ++ '/' :: (name ++ tail))

/-- The extension of a name follows its last dot, and something stands before that dot. -/
def NameExtension (name extension : List Char) : Prop :=
  '.' ∉ extension ∧ ∃ stem, stem ≠ [] ∧ name = stem ++ '.' :: extension

def HasExtension (path extension : String) : Prop :=
  ∃ name, IsName name ∧ LeadsTo name path.toList ∧ NameExtension name extension.toList

theorem splitAtSlashes_ne_nil (path : List Char) : splitAtSlashes path ≠ [] := by
  fun_cases splitAtSlashes path <;> exact List.cons_ne_nil _ _

theorem splitAtSlashes_of_not_mem {part : List Char} (h : '/' ∉ part) :
    splitAtSlashes part = [part] := by
  induction part with
  | nil => rfl
  | cons c part ih =>
    have hc : c ≠ '/' := (List.ne_of_not_mem_cons h).symm
    rw [splitAtSlashes, if_neg hc, ih (List.not_mem_of_not_mem_cons h)]

theorem splitAtSlashes_append (a b : List Char) :
    splitAtSlashes (a ++ '/' :: b) = splitAtSlashes a ++ splitAtSlashes b := by
  induction a with
  | nil => rfl
  | cons c a ih =>
    rw [List.cons_append, splitAtSlashes, splitAtSlashes, ih]
    by_cases hc : c = '/'
    · rw [if_pos hc, if_pos hc, List.cons_append]
    · obtain ⟨part, parts, hparts⟩ := List.exists_cons_of_ne_nil (splitAtSlashes_ne_nil a)
      rw [if_neg hc, if_neg hc, hparts, List.cons_append, List.cons_append]

def named (path : List Char) : List (List Char) :=
  (splitAtSlashes path).filter fun p => p != [] && p != ['.']

theorem named_append (a b : List Char) : named (a ++ '/' :: b) = named a ++ named b := by
  rw [named, splitAtSlashes_append, List.filter_append, named, named]

theorem named_of_not_mem {part : List Char} (h : '/' ∉ part) :
    named part = if part = [] ∨ part = ['.'] then [] else [part] := by
  rw [named, splitAtSlashes_of_not_mem h]
  by_cases hpart : part = [] ∨ part = ['.']
  · rw [if_pos hpart]
    rcases hpart with rfl | rfl <;> rfl
  · rw [if_neg hpart]
    simpa [not_or] using hpart

theorem named_append_trailing (path : List Char) {tail : List Char} (h : Trailing tail) :
    named (path ++ tail) = named path := by
  induction h with
  | nil => rw [List.append_nil]
  | slash _ ih =>
    have hnothing : named [] = [] := rfl
    rw [← List.append_assoc, named_append, ih, hnothing, List.append_nil]
  | dot _ ih =>
    have hnothing : named ['.'] = [] := rfl
    rw [← List.append_assoc, named_append, ih, hnothing, List.append_nil]

theorem IsName.named_eq {name : List Char} (h : IsName name) : named name = [name] := by
  rw [named_of_not_mem h.slash, if_neg (not_or.2 ⟨h.ne_nil, h.ne_dot⟩)]

section
variable {name path : List Char}

theorem LeadsTo.slash (h : LeadsTo name path) : LeadsTo name (path ++ ['/']) := by
  cases h with
  | alone h =>
    rw [List.append_assoc]
    exact .alone h.slash
  | inside directory h =>
    rw [List.append_assoc, List.cons_append, List.append_assoc]
    exact .inside directory h.slash

theorem LeadsTo.dot (h : LeadsTo name path) : LeadsTo name (path ++ ['/', '.']) := by
  cases h with
  | alone h =>
    rw [List.append_assoc]
    exact .alone h.dot
  | inside directory h =>
    rw [List.append_assoc, List.cons_append, List.append_assoc]
    exact .inside directory h.dot

theorem LeadsTo.getLast?_named (hname : IsName name) (h : LeadsTo name path) :
    (named path).getLast? = some name := by
  cases h with
  | alone h => rw [named_append_trailing name h, hname.named_eq]; rfl
  | inside directory h =>
    rw [named_append, named_append_trailing name h, hname.named_eq, List.getLast?_concat]

theorem LeadsTo.self (name : List Char) : LeadsTo name name := by
  have h : LeadsTo name (name ++ []) := .alone .nil
  rwa [List.append_nil] at h

theorem LeadsTo.last (directory name : List Char) : LeadsTo name (directory ++ '/' :: name) := by
  have h : LeadsTo name (directory ++ '/' :: (name ++ [])) := .inside directory .nil
  rwa [List.append_nil] at h

theorem LeadsTo.eq_of_not_mem (hname : IsName name) (h : LeadsTo name path) (hslash : '/' ∉ path) :
    name = path := by
  have hlast := h.getLast?_named hname
  rw [named_of_not_mem hslash] at hlast
  split at hlast
  · cases hlast
  · exact (Option.some.inj hlast).symm

theorem leadsTo_of_getLast?_named {path : List Char} (h : (named path).getLast? = some name) :
    '/' ∉ name ∧ name ≠ [] ∧ name ≠ ['.'] ∧ LeadsTo name path := by
  by_cases hslash : '/' ∈ path
  · obtain ⟨directory, part, rfl, hpart⟩ := exists_last_of_mem hslash
    rw [named_append, named_of_not_mem hpart] at h
    split at h
    · -- the part behind the last slash names nothing, so the name stands before it
      rename_i hnothing
      rw [List.append_nil] at h
      obtain ⟨hname, hnil, hdot, hleads⟩ := leadsTo_of_getLast?_named h
      rcases hnothing with rfl | rfl
      · exact ⟨hname, hnil, hdot, hleads.slash⟩
      · exact ⟨hname, hnil, hdot, hleads.dot⟩
    · rename_i hsome
      rw [List.getLast?_concat] at h
      obtain rfl := Option.some.inj h
      obtain ⟨hnil, hdot⟩ := not_or.1 hsome
      exact ⟨hpart, hnil, hdot, .last directory part⟩
  · rw [named_of_not_mem hslash] at h
    split at h
    · cases h
    · rename_i hsome
      obtain rfl := Option.some.inj h
      obtain ⟨hnil, hdot⟩ := not_or.1 hsome
      exact ⟨hslash, hnil, hdot, .self path⟩
termination_by path.length

theorem fileName?_eq (path : List Char) :
    fileName? path = (named path).getLast?.bind fun p => if p = ['.', '.'] then none else some p := by
  unfold fileName? named
  cases List.getLast? _ with
  | none => rfl
  | some p => rfl

theorem fileName?_eq_some_iff : fileName? path = some name ↔ IsName name ∧ LeadsTo name path := by
  rw [fileName?_eq, Option.bind_eq_some_iff]
  constructor
  · rintro ⟨p, hlast, hp⟩
    obtain ⟨hdots, heq⟩ := Option.ite_none_left_eq_some.1 hp
    obtain rfl := Option.some.inj heq
    obtain ⟨hslash, hnil, hdot, hleads⟩ := leadsTo_of_getLast?_named hlast
    exact ⟨⟨hnil, hslash, hdot, hdots⟩, hleads⟩
  · rintro ⟨hname, hleads⟩
    exact ⟨name, hleads.getLast?_named hname, if_neg hname.ne_dots⟩

end

theorem extensionOf?_last {after : List Char} (hafter : '.' ∉ after) (stem : List Char) :
    extensionOf? (stem ++ '.' :: after) = if stem = [] then none else some after := by
  unfold extensionOf?
  rw [takeWhile_reverse_last hafter, dropWhile_reverse_last hafter]
  by_cases hstem : stem = []
  · rw [if_pos hstem, hstem, List.reverse_nil]
  · obtain ⟨c, front, hfront⟩ := List.exists_cons_of_ne_nil (List.reverse_ne_nil_iff.2 hstem)
    rw [if_neg hstem, hfront]
    exact congrArg some (List.reverse_reverse after)

theorem extensionOf?_eq_some_iff (name extension : List Char) :
    extensionOf? name = some extension ↔ NameExtension name extension := by
  constructor
  · intro h
    by_cases hdot : '.' ∈ name
    · obtain ⟨stem, after, rfl, hafter⟩ := exists_last_of_mem hdot
      rw [extensionOf?_last hafter] at h
      obtain ⟨hstem, heq⟩ := Option.ite_none_left_eq_some.1 h
      obtain rfl := Option.some.inj heq
      exact ⟨hafter, stem, hstem, rfl⟩
    · rw [extensionOf?, dropWhile_reverse_of_not_mem hdot] at h
      cases h
  · rintro ⟨hdot, stem, hstem, rfl⟩
    rw [extensionOf?_last hdot, if_neg hstem]

theorem extension?_eq_some_iff (path extension : String) :
    extension? path = some extension ↔ HasExtension path extension := by
  unfold extension? HasExtension
  simp only [Option.map_eq_some_iff, Option.bind_eq_some_iff, fileName?_eq_some_iff,
    extensionOf?_eq_some_iff]
  constructor
  · rintro ⟨_, ⟨name, ⟨hname, hleads⟩, h⟩, rfl⟩
    refine ⟨name, hname, hleads, ?_⟩
    rwa [String.toList_ofList]
  · rintro ⟨name, hname, hleads, h⟩
    exact ⟨extension.toList, ⟨name, ⟨hname, hleads⟩, h⟩, String.ofList_toList⟩

theorem extension?_of_leadsTo {path name : String} (hname : IsName name.toList)
    (h : LeadsTo name.toList path.toList) : extension? path = extension? name := by
  have hpath := fileName?_eq_some_iff.2 ⟨hname, h⟩
  have hself := fileName?_eq_some_iff.2 ⟨hname, .self name.toList⟩
  rw [extension?, extension?, hpath, hself]

theorem extension?_hidden {rest : String} (hdot : '.' ∉ rest.toList) (hslash : '/' ∉ rest.toList) :
    extension? ("." ++ rest) = none := by
  refine Option.eq_none_iff_forall_ne_some.2 fun extension h => ?_
  obtain ⟨name, hname, hleads, -, stem, hstem, heq⟩ := (extension?_eq_some_iff _ _).1 h
  have hpath : ("." ++ rest).toList = '.' :: rest.toList := String.toList_append
  have hslash' : '/' ∉ '.' :: rest.toList := List.not_mem_cons_of_ne_of_not_mem (by decide) hslash
  rw [hpath] at hleads
  rw [hleads.eq_of_not_mem hname hslash'] at heq
  -- the last dot of the name would stand behind the first one
  obtain ⟨c, front, rfl⟩ := List.exists_cons_of_ne_nil hstem
  obtain ⟨-, hrest⟩ := List.cons.inj heq
  exact hdot (hrest ▸ List.mem_append_right front (List.mem_cons_self ..))

end MarkdownToAdf.Files
