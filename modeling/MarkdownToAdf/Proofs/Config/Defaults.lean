import MarkdownToAdf.Proofs.Config.Visiting

set_option autoImplicit false

/-!
# Default settings

The text of the defaults says something about every setting, once.
-/
namespace MarkdownToAdf.Config

def Settings.defaults : Settings :=
  ⟨⟨true, true, true⟩, "json", true, "warn"⟩

def Setting.all : List Setting :=
  [.table, .strikethrough, .autolink, .format, .pretty, .logLevel]

theorem Setting.mem_all (s : Setting) : s ∈ Setting.all := by
  cases s <;> decide

def Settings.tellsIn (settings : Settings) (es : Toml.Entries) : Bool :=
  Setting.all.all fun s => (es.flatMap placed).all s.allows && s.values es == [settings.value s]

theorem tellsIn_iff (settings : Settings) (es : Toml.Entries) :
    settings.tellsIn es = true ↔
      Setting.AllowsAll es ∧ ∀ s : Setting, s.values es = [settings.value s] := by
  simp only [Settings.tellsIn, List.all_eq_true (l := Setting.all), Setting.mem_all, forall_const,
    Bool.and_eq_true, beq_iff_eq, forall_and, Setting.AllowsAll]

theorem exists_defaults : ∃ es, Toml.ofText? defaultText = some es ∧ Setting.AllowsAll es ∧
    ∀ s : Setting, s.values es = [Settings.defaults.value s] := by
  have hread : (Toml.ofChars? (defaultLines.flatMap String.toList)).any Settings.defaults.tellsIn =
      true := by
    decide +kernel
  have htext : Toml.ofText? defaultText = Toml.ofChars? (defaultLines.flatMap String.toList) :=
    congrArg Toml.ofChars? String.toList_join
  obtain ⟨es, hes, htells⟩ := (Option.any_eq_true _ _).1 hread
  exact ⟨es, htext.trans hes, (tellsIn_iff _ _).1 htells⟩

end MarkdownToAdf.Config
