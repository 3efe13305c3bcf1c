import MarkdownToAdf.Format.Registry
import MarkdownToAdf.Proofs.Steps

set_option autoImplicit false

/-!
# Accepted parameters

Whether a built-in format can write a document is a matter of the parameters alone: each must be
the only one that the format knows, and its value a word for a truth value.
-/
namespace MarkdownToAdf.Format
variable {format parameter : String} {ps : Parameters} {d : Adf.Document}

def Understood (parameter : String) (ps : Parameters) : Prop :=
  ∀ p ∈ ps, p.1 = parameter ∧ (truth? p.2).isSome

instance : Decidable (Understood parameter ps) :=
  inferInstanceAs (Decidable (∀ p ∈ ps, _))

theorem understood_cons (p : String × String) :
    Understood parameter (p :: ps) ↔
      (p.1 = parameter ∧ (truth? p.2).isSome) ∧ Understood parameter ps :=
  List.forall_mem_cons

theorem readSwitch_ok_iff (ps : Parameters) (default : Bool) :
    (∃ b, readSwitch format parameter default ps = .ok b) ↔ Understood parameter ps := by
  induction ps generalizing default with
  | nil => exact ⟨fun _ => nofun, fun _ => ⟨default, rfl⟩⟩
  | cons p r ih =>
    obtain ⟨name, value⟩ := p
    rw [understood_cons]
    by_cases hname : name = parameter
    · cases htruth : truth? value with
      | none => simp [readSwitch, readTruth, hname, htruth]
      | some b => simp [readSwitch, readTruth, hname, htruth, ih]
    · simp [readSwitch, hname]

/-- A format accepts parameters if it can write every document with them. -/
def Registry.Accepts (r : Registry) (format : String) (ps : Parameters) : Prop :=
  ∀ d, ∃ text, r.writeWith format ps d = .ok text

namespace Registry

theorem has_iff (r : Registry) (format : String) : r.has format ↔ format ∈ r.names := by
  simp [has, get?, names]

theorem builtIn_entries :
    builtIn.entries = [("json", jsonFormat true), ("treeviz", treeFormat)] :=
  rfl

theorem writeWith_eq_ok_iff (r : Registry) (text : String) :
    r.writeWith format ps d = .ok text ↔
      ∃ f, r.get? format = some f ∧ f.writeWith ps d = .ok text := by
  unfold writeWith get
  cases r.get? format with
  | none => exact ⟨nofun, nofun⟩
  | some f =>
    constructor
    · intro h
      exact ⟨f, rfl, h⟩
    · rintro ⟨_, ⟨⟩, h⟩
      exact h

theorem builtIn_get?_eq_some_iff (f : OutputFormat) :
    builtIn.get? format = some f ↔
      format = "json" ∧ f = jsonFormat true ∨ format = "treeviz" ∧ f = treeFormat := by
  rw [get?, lookup_eq_some_iff_mem builtIn.nodup, builtIn_entries]
  simp

/-- The built-in formats write any document as soon as they understand their parameters. -/
theorem builtIn_writeWith_ok_iff :
    (∃ text, builtIn.writeWith format ps d = .ok text) ↔
      format = "json" ∧ Understood "pretty" ps ∨
        format = "treeviz" ∧ Understood "show-marks" ps := by
  simp only [writeWith_eq_ok_iff, builtIn_get?_eq_some_iff]
  constructor
  · rintro ⟨text, f, ⟨hformat, rfl⟩ | ⟨hformat, rfl⟩, h⟩
    · obtain ⟨b, hb, -⟩ := (map_eq_ok_iff _ _ _).1 h
      exact .inl ⟨hformat, (readSwitch_ok_iff _ _).1 ⟨b, hb⟩⟩
    · obtain ⟨b, hb, -⟩ := (map_eq_ok_iff _ _ _).1 h
      exact .inr ⟨hformat, (readSwitch_ok_iff _ _).1 ⟨b, hb⟩⟩
  · rintro (⟨hformat, h⟩ | ⟨hformat, h⟩)
    · obtain ⟨b, hb⟩ := (readSwitch_ok_iff _ true).2 h
      exact ⟨_, _, .inl ⟨hformat, rfl⟩, (map_eq_ok_iff _ _ _).2 ⟨b, hb, rfl⟩⟩
    · obtain ⟨b, hb⟩ := (readSwitch_ok_iff _ true).2 h
      exact ⟨_, _, .inr ⟨hformat, rfl⟩, (map_eq_ok_iff _ _ _).2 ⟨b, hb, rfl⟩⟩

theorem builtIn_accepts {text : String} (h : builtIn.writeWith format ps d = .ok text) :
    builtIn.Accepts format ps := by
  have hunderstood := builtIn_writeWith_ok_iff.1 ⟨text, h⟩
  intro d'
  exact builtIn_writeWith_ok_iff.2 hunderstood

end Registry

end MarkdownToAdf.Format
