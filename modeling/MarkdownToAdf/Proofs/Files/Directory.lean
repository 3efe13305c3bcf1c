import MarkdownToAdf.Files.Directory
import MarkdownToAdf.Proofs.Steps
import MarkdownToAdf.Proofs.Text.Utf8

set_option autoImplicit false

/-!
# Reading and writing files

What a path leads to decides if a file can be read or written there. Writing changes the file in
one place; all other places are as they were.
-/
namespace MarkdownToAdf.Files
open Text

/-- Paths that end in a slash or a single dot stand for folders only. -/
def NamesFile (path : String) : Prop :=
  lastPart path ≠ [] ∧ lastPart path ≠ ['.']

section
variable {here : Place}

structure Directory.Holds (d : Directory here) (path : String) (place : Place)
    (bytes : List UInt8) : Prop where
  leads : d.resolve path = .ok place
  found : d.entry? place = some (.file bytes)
  named : NamesFile path
  allowed : d.refusal? .read place = none

/-- A path leads to a place where a file is or may be, because no folder is there, and the file, or
its folder if it is new, may be written to. -/
structure Directory.Writable (d : Directory here) (path : String) (place : Place) : Prop where
  leads : d.resolve path = .ok place
  free : d.entry? place ≠ some .folder
  named : NamesFile path
  allowed : d.refusal? .write place = none
  creatable : d.entry? place = none → d.refusal? .write place.dropLast = none

/-- Two directories agree apart from one place, where the second one holds a file. -/
structure Directory.Stored (d : Directory here) (place : Place) (bytes : List UInt8)
    (after : Directory here) : Prop where
  stored : after.files.lookup place = some bytes
  others : ∀ other, other ≠ place → after.files.lookup other = d.files.lookup other
  traits : after.traits = d.traits

end

namespace Directory
variable {here : Place} {d : Directory here} {path : String} {place : Place}

theorem stored_put (d : Directory here) (place : Place) (bytes : List UInt8) :
    d.Stored place bytes { d with files := put place bytes d.files } :=
  ⟨lookup_put_self _ _ _, fun _ h => lookup_put_of_ne h _ _, rfl⟩

theorem permit_eq_ok_iff (access : Access) (u : Unit) :
    d.permit access place = .ok u ↔ d.refusal? access place = none := by
  unfold permit
  cases d.refusal? access place with
  | none => exact ⟨fun _ => rfl, fun _ => rfl⟩
  | some reason => exact ⟨nofun, nofun⟩

theorem permitWrite_eq_ok_iff (u : Unit) :
    d.permitWrite place = .ok u ↔ d.refusal? .write place = none ∧
      (d.entry? place = none → d.refusal? .write place.dropLast = none) := by
  unfold permitWrite
  cases d.entry? place with
  | some e => simp [permit_eq_ok_iff]
  | none =>
    simp only [bind_eq_ok_iff, permit_eq_ok_iff, forall_const]
    exact ⟨fun ⟨_, hfolder, hplace⟩ => ⟨hplace, hfolder⟩, fun ⟨hplace, hfolder⟩ => ⟨(), hfolder, hplace⟩⟩

theorem read_of_holds {bytes : List UInt8} (h : d.Holds path place bytes) :
    d.read path = .ok bytes := by
  have hnamed : ¬ (lastPart path = [] ∨ lastPart path = ['.']) := not_or.2 h.named
  refine (bind_eq_ok_iff _ _ _).2 ⟨place, h.leads, ?_⟩
  rw [h.found]
  dsimp only
  rw [if_neg hnamed, map_eq_ok_iff]
  exact ⟨(), (permit_eq_ok_iff _ _).2 h.allowed, rfl⟩

theorem read_eq_ok_iff (bytes : List UInt8) :
    d.read path = .ok bytes ↔ ∃ place, d.Holds path place bytes := by
  constructor
  · intro h
    obtain ⟨place, hleads, h⟩ := (bind_eq_ok_iff _ _ _).1 h
    split at h
    · rename_i found hfound
      split at h
      · cases h
      · rename_i hnamed
        obtain ⟨u, hpermit, rfl⟩ := (map_eq_ok_iff _ _ _).1 h
        exact ⟨place, hleads, hfound, not_or.1 hnamed, (permit_eq_ok_iff _ _).1 hpermit⟩
    · obtain ⟨u, -, h⟩ := (bind_eq_ok_iff _ _ _).1 h
      cases h
    · cases h
  · rintro ⟨place, h⟩
    exact read_of_holds h

theorem readText_eq_ok_iff (text : String) :
    d.readText path = .ok text ↔ ∃ place, d.Holds path place (bytesOf text.toList) := by
  rw [← read_eq_ok_iff]
  constructor
  · intro h
    obtain ⟨bytes, hread, h⟩ := (bind_eq_ok_iff _ _ _).1 h
    cases hdecode : decodeText? bytes with
    | none =>
      rw [hdecode] at h
      cases h
    | some found =>
      rw [hdecode] at h
      cases h
      rw [hread, (decodeText?_eq_some_iff _ _).1 hdecode]
  · intro h
    refine (bind_eq_ok_iff _ _ _).2 ⟨_, h, ?_⟩
    rw [(decodeText?_eq_some_iff _ _).2 rfl]
    rfl

theorem write_of_writable (h : d.Writable path place) (bytes : List UInt8) :
    d.write path bytes = .ok { d with files := put place bytes d.files } := by
  obtain ⟨hempty, hdot⟩ := h.named
  refine (bind_eq_ok_iff _ _ _).2 ⟨place, h.leads, ?_⟩
  split
  · rename_i hfolder
    exact absurd hfolder h.free
  · rename_i hlast _
    exact absurd hlast hempty
  · exact absurd ‹lastPart path = ['.']› hdot
  · exact absurd ‹lastPart path = ['.']› hdot
  · exact (map_eq_ok_iff _ _ _).2 ⟨(), (permitWrite_eq_ok_iff _).2 ⟨h.allowed, h.creatable⟩, rfl⟩

theorem write_eq_ok_iff (bytes : List UInt8) (after : Directory here) :
    d.write path bytes = .ok after ↔
      ∃ place, d.Writable path place ∧ after = { d with files := put place bytes d.files } := by
  constructor
  · intro h
    obtain ⟨place, hleads, h⟩ := (bind_eq_ok_iff _ _ _).1 h
    split at h
    · cases h
    · cases h
    · cases h
    · cases h
    · rename_i hfolder hempty hfile hnone
      obtain ⟨u, hpermit, rfl⟩ := (map_eq_ok_iff _ _ _).1 h
      obtain ⟨hallowed, hcreatable⟩ := (permitWrite_eq_ok_iff _).1 hpermit
      refine ⟨place, ⟨hleads, hfolder, ⟨hempty, fun hdot => ?_⟩, hallowed, hcreatable⟩, rfl⟩
      -- a single dot at the end is refused both for a file and for nothing at all
      cases hentry : d.entry? place with
      | none => exact hnone hentry hdot
      | some e =>
        cases e with
        | file old => exact hfile old hentry hdot
        | folder => exact hfolder hentry
  · rintro ⟨place, hwritable, rfl⟩
    exact write_of_writable hwritable bytes

end Directory

end MarkdownToAdf.Files
