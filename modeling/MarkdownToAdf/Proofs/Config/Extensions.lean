import MarkdownToAdf.Config.Settings
import MarkdownToAdf.Proofs.Steps

set_option autoImplicit false

/-!
# Configured extensions

Each extension of the settings is the truth value of its own entry in the section for the parser,
and settings can be read only if all three entries are there.
-/
namespace MarkdownToAdf.Config

theorem require_eq_ok_iff {α : Type} (s : Section) (name : String) (c : Content) (found : Option α)
    (a : α) : c.require s name found = .ok a ↔ found = some a := by
  cases found with
  | none => exact ⟨nofun, nofun⟩
  | some b => rw [Content.require, Except.ok.injEq, Option.some_inj]

theorem readParser_eq_ok_iff (c : Content) (p : ParserSettings) :
    readParser c = .ok p ↔
      c.truth? .parser 0 "table" = .ok (some p.table) ∧
        c.truth? .parser 1 "strikethrough" = .ok (some p.strikethrough) ∧
          c.truth? .parser 2 "autolink" = .ok (some p.autolink) := by
  constructor
  · intro h
    obtain ⟨table, htable, h⟩ := (bind_eq_ok_iff _ _ _).1 h
    obtain ⟨strike, hstrike, h⟩ := (bind_eq_ok_iff _ _ _).1 h
    obtain ⟨autolink, hautolink, h⟩ := (bind_eq_ok_iff _ _ _).1 h
    obtain ⟨a, ha, h⟩ := (bind_eq_ok_iff _ _ _).1 h
    obtain ⟨b, hb, h⟩ := (bind_eq_ok_iff _ _ _).1 h
    obtain ⟨c, hc, h⟩ := (bind_eq_ok_iff _ _ _).1 h
    cases h
    rw [require_eq_ok_iff] at ha hb hc
    rw [htable, hstrike, hautolink, ha, hb, hc]
    exact ⟨rfl, rfl, rfl⟩
  · rintro ⟨htable, hstrike, hautolink⟩
    unfold readParser
    dsimp only
    rw [htable, hstrike, hautolink]
    rfl

theorem readParser_of_read {v : Value} {settings : Settings} (h : Settings.read v = .ok settings)
    {content : Content} (hcontent : v.section .parser = .ok content) :
    readParser content = .ok settings.parser := by
  obtain ⟨content', hcontent', h⟩ := (bind_eq_ok_iff _ _ _).1 h
  obtain ⟨extensions, hextensions, h⟩ := (bind_eq_ok_iff _ _ _).1 h
  obtain ⟨output, -, h⟩ := (bind_eq_ok_iff _ _ _).1 h
  obtain ⟨⟨format, pretty⟩, -, h⟩ := (bind_eq_ok_iff _ _ _).1 h
  obtain ⟨logging, -, h⟩ := (bind_eq_ok_iff _ _ _).1 h
  obtain ⟨level, -, h⟩ := (bind_eq_ok_iff _ _ _).1 h
  cases h
  rw [hcontent'] at hcontent
  cases hcontent
  exact hextensions

end MarkdownToAdf.Config
