import MarkdownToAdf.Proofs.Config.Extensions
import MarkdownToAdf.Proofs.Config.Setting

set_option autoImplicit false

/-!
# Laying values over one another

What is laid over a configuration tree changes the settings that it names, and leaves all others
as they are, also those next to them in the same section.
-/
namespace MarkdownToAdf.Config
open Text

def Value.at? (v : Value) (s : Setting) : Option Value :=
  (v.get? s.section.key).bind (Value.get? s.name)

/-- A place holds a single value, wherever that was written, or nothing. -/
def Shows (v? : Option Value) : Option Scalar → Prop
  | some a => ∃ origin, v? = some (.scalar origin a)
  | none => v? = none

namespace Value
variable (v : Value) (s : Setting)

theorem get?_set_self (key : String) (new : Value) : (v.set key new).get? key = some new :=
  lookup_put_self key new v.entries

theorem get?_set_of_ne {key other : String} (h : other ≠ key) (new : Value) :
    (v.set key new).get? other = v.get? other :=
  lookup_put_of_ne h new v.entries

theorem at?_set_of_ne {key : String} (h : key ≠ s.section.key) (new : Value) :
    (v.set key new).at? s = v.at? s := by
  rw [at?, get?_set_of_ne v h.symm, at?]

theorem at?_set_section (new : Value) : (v.set s.section.key new).at? s = new.get? s.name := by
  rw [at?, get?_set_self, Option.bind_some]

theorem get?_getD_section {missing : Value} (h : missing.entries = []) :
    ((v.get? s.section.key).getD missing).get? s.name = v.at? s := by
  unfold at?
  cases v.get? s.section.key with
  | none => rw [Option.getD_none, get?, h]; rfl
  | some x => rfl

theorem setPlace_eq_set (p : Place) (new : Value) :
    ∃ x, v.setPlace p new = v.set (lowercase p.first) x := by
  obtain ⟨first, steps⟩ := p
  cases steps with
  | nil => exact ⟨_, rfl⟩
  | cons step below => exact ⟨_, rfl⟩

theorem setPlace_key (first k : String) (below : List Step) (new : Value) :
    ∃ x, v.setPlace ⟨first, .key k :: below⟩ new = v.set (lowercase first)
      (((v.get? (lowercase first)).getD nothing).set (lowercase k) x) := by
  cases below with
  | nil => exact ⟨_, rfl⟩
  | cons step below => exact ⟨_, rfl⟩

theorem at?_setPlace_of_first {first : String} (h : lowercase first ≠ s.section.key)
    (steps : List Step) (new : Value) : (v.setPlace ⟨first, steps⟩ new).at? s = v.at? s := by
  obtain ⟨x, hx⟩ := v.setPlace_eq_set ⟨first, steps⟩ new
  rw [hx, at?_set_of_ne v s h]

theorem at?_setPlace_of_key {first k : String} (h : lowercase first = s.section.key)
    (hk : lowercase k ≠ s.name) (below : List Step) (new : Value) :
    (v.setPlace ⟨first, .key k :: below⟩ new).at? s = v.at? s := by
  obtain ⟨x, hx⟩ := v.setPlace_key first k below new
  rw [hx, h, at?_set_section, get?_set_of_ne _ hk.symm, get?_getD_section v s rfl]

theorem at?_setPlace_scalar {first k : String} (h : lowercase first = s.section.key)
    (hk : lowercase k = s.name) (origin : Option String) (a : Scalar) :
    (v.setPlace ⟨first, [.key k]⟩ (.scalar origin a)).at? s = some (.scalar origin a) := by
  have hset : v.setPlace ⟨first, [.key k]⟩ (.scalar origin a) = v.set (lowercase first)
      (((v.get? (lowercase first)).getD nothing).set (lowercase k) (.scalar origin a)) := rfl
  rw [hset, h, hk, at?_set_section, get?_set_self]

end Value

section
variable {s : Setting} {origin : Option String}

/-- A key of a section in a file, with what it does to the setting of the section with a name. -/
def Setting.under? (s : Setting) (e : String × Toml) : Option Scalar :=
  if lowercase e.1 = s.name then s.kind.read? e.2 else none

/-- A table is laid over a section key by key, so each key keeps its value until it comes again. -/
theorem shows_enter (es : List (String × Toml))
    (hes : ∀ e ∈ es, lowercase e.1 = s.name → (s.kind.read? e.2).isSome) {x : Value}
    {a? : Option Scalar} (hx : Shows (x.get? s.name) a?) :
    Shows ((Value.enter x (Value.ofEntries origin es)).get? s.name)
      ((latest s.under? es).or a?) := by
  induction es generalizing x a? with
  | nil => exact hx
  | cons e r ih =>
    obtain ⟨k, w⟩ := e
    obtain ⟨he, hr⟩ := List.forall_mem_cons.1 hes
    rw [Value.ofEntries, Value.enter, latest_cons_or]
    refine ih hr ?_
    by_cases hk : lowercase k = s.name
    · obtain ⟨b, hb⟩ := Option.isSome_iff_exists.1 (he hk)
      rw [Setting.under?, if_pos hk, hb, Option.some_or, s.kind.ofToml_of_read? hb, Value.overlaid,
        hk, Value.get?_set_self]
      exact ⟨_, rfl⟩
    · rw [Setting.under?, if_neg hk, Option.none_or, Value.get?_set_of_ne _ (Ne.symm hk)]
      exact hx

theorem isAt_of_first {first : String} (h : lowercase first ≠ s.section.key) (steps : List Step) :
    s.isAt ⟨first, steps⟩ = false := by
  rw [Setting.isAt, beq_false_of_ne h, Bool.false_and]

theorem isAt_key {first : String} (h : lowercase first = s.section.key) (k : String) :
    s.isAt ⟨first, [.key k]⟩ = (lowercase k == s.name) := by
  rw [Setting.isAt, h, beq_self_eq_true, Bool.true_and]

theorem shows_table {first : String} (es : List (String × Toml))
    (hes : ∀ e ∈ es, s.allows (⟨first, [.key e.1]⟩, e.2) = true) {v : Value}
    {a? : Option Scalar} (hv : Shows (v.at? s) a?) :
    Shows ((v.setPlace ⟨first, []⟩ (.table origin (Value.ofEntries origin es))).at? s)
      ((latest s.read? (es.map fun (k, w) => (⟨first, [.key k]⟩, w))).or a?) := by
  by_cases h : lowercase first = s.section.key
  · have hlatest : latest s.read? (es.map fun (k, w) => (⟨first, [.key k]⟩, w)) =
        latest s.under? es := by
      unfold latest
      rw [List.filterMap_map]
      congr 2
      funext e
      simp [Setting.read?, isAt_key h, Setting.under?]
    have hset : v.setPlace ⟨first, []⟩ (.table origin (Value.ofEntries origin es)) =
        v.set (lowercase first)
          (Value.enter ((v.get? (lowercase first)).getD .empty) (Value.ofEntries origin es)) := rfl
    rw [hlatest, hset, h, Value.at?_set_section]
    refine shows_enter es (fun e he hk => ?_) ?_
    · simpa [Setting.allows, h, hk] using hes e he
    · rwa [Value.get?_getD_section v s rfl]
  · have hlatest : latest s.read? (es.map fun (k, w) => (⟨first, [.key k]⟩, w)) = none := by
      refine latest_eq_none fun e he => ?_
      obtain ⟨⟨k, w⟩, -, rfl⟩ := List.mem_map.1 he
      rw [Setting.read?, isAt_of_first h, if_neg Bool.false_ne_true]
    rw [hlatest, Option.none_or, Value.at?_setPlace_of_first v s h]
    exact hv

theorem shows_single (p : Place) (w : Toml) (h : s.allows (p, w) = true) {v : Value}
    {a? : Option Scalar} (hv : Shows (v.at? s) a?) :
    Shows ((v.setPlace p (Value.ofToml origin w)).at? s) ((s.read? (p, w)).or a?) := by
  obtain ⟨first, steps⟩ := p
  by_cases hfirst : lowercase first = s.section.key
  · cases steps with
    | nil => simp [Setting.allows, hfirst] at h
    | cons step below =>
      cases step with
      | item n => simp [Setting.allows, hfirst] at h
      | key k =>
        by_cases hk : lowercase k = s.name
        · simp only [Setting.allows, hfirst, hk, bne_self_eq_false, Bool.false_or,
            Bool.and_eq_true, List.isEmpty_iff, Option.isSome_iff_exists] at h
          obtain ⟨rfl, b, hb⟩ := h
          rw [Setting.read?, isAt_key hfirst, hk, beq_self_eq_true, if_pos rfl, hb, Option.some_or,
            s.kind.ofToml_of_read? hb, Value.at?_setPlace_scalar v s hfirst hk]
          exact ⟨_, rfl⟩
        · have hat : s.isAt ⟨first, .key k :: below⟩ = false := by
            cases below <;> simp [Setting.isAt, hk]
          rw [Setting.read?, hat, if_neg Bool.false_ne_true, Option.none_or,
            Value.at?_setPlace_of_key v s hfirst hk]
          exact hv
  · rw [Setting.read?, isAt_of_first hfirst, if_neg Bool.false_ne_true, Option.none_or,
      Value.at?_setPlace_of_first v s hfirst]
    exact hv

theorem shows_entry (e : String × Toml) (he : (placed e).all s.allows = true) {v : Value}
    {a? : Option Scalar} (hv : Shows (v.at? s) a?) :
    Shows ((v.setPlace (placeOf e.1) (Value.ofToml origin e.2)).at? s)
      ((latest s.read? (placed e)).or a?) := by
  unfold placed at he ⊢
  split at he
  · rename_i first kind es hplace htable
    rw [hplace, htable, Value.ofToml]
    refine shows_table es (fun e he' => ?_) hv
    exact List.all_eq_true.1 he _ (List.mem_map_of_mem he')
  · rw [latest_singleton]
    exact shows_single _ _ (by simpa using he) hv

theorem shows_layFile (es : Toml.Entries) (hes : (es.flatMap placed).all s.allows = true)
    {v : Value} {a? : Option Scalar} (hv : Shows (v.at? s) a?) :
    Shows ((v.layFile (Value.ofEntries origin es)).at? s) ((s.inEntries? es).or a?) := by
  induction es generalizing v a? with
  | nil => exact hv
  | cons e r ih =>
    obtain ⟨k, w⟩ := e
    rw [List.flatMap_cons, List.all_append, Bool.and_eq_true] at hes
    have hentry : Shows ((v.setPlace (placeOf k) (Value.ofToml origin w)).at? s)
        ((latest s.read? (placed (k, w))).or a?) := shows_entry (k, w) hes.1 hv
    have hrest := ih hes.2 hentry
    have hlatest : (s.inEntries? ((k, w) :: r)).or a? =
        (s.inEntries? r).or ((latest s.read? (placed (k, w))).or a?) := by
      rw [Setting.inEntries?, List.flatMap_cons, latest_append_or, Setting.inEntries?]
    rw [hlatest]
    exact hrest

end

theorem section_of_shows {v : Value} {values : Setting → Scalar}
    (h : ∀ s, Shows (v.at? s) (some (values s))) (s : Setting) :
    ∃ es, v.section s.section = .ok (.named es) ∧
      ∀ t : Setting, t.section = s.section → Shows (es.lookup t.name) (some (values t)) := by
  obtain ⟨origin, hs⟩ := h s
  obtain ⟨x, hx, hname⟩ := Option.bind_eq_some_iff.1 hs
  cases x with
  | scalar | array => cases hname
  | table o es =>
    refine ⟨es, by rw [Value.section, hx]; rfl, fun t ht => ?_⟩
    have hshows := h t
    rw [Value.at?, ht, hx, Option.bind_some] at hshows
    exact hshows

theorem truth?_of_shows {es : List (String × Value)} {name : String} {b : Bool}
    (h : Shows (es.lookup name) (some (.boolean b))) (s : Section) (n : Nat) :
    (Content.named es).truth? s n name = .ok (some b) := by
  obtain ⟨origin, h⟩ := h
  rw [Content.truth?, Content.get?, h]
  rfl

theorem text?_of_shows {es : List (String × Value)} {name : String} {text : String}
    (h : Shows (es.lookup name) (some (.string text))) (s : Section) (n : Nat) :
    (Content.named es).text? s n name = .ok (some text) := by
  obtain ⟨origin, h⟩ := h
  rw [Content.text?, Content.get?, h]
  rfl

theorem read_of_shows {v : Value} (settings : Settings)
    (h : ∀ s, Shows (v.at? s) (some (settings.value s))) : Settings.read v = .ok settings := by
  obtain ⟨parser, hparser, hp⟩ := section_of_shows h .table
  obtain ⟨output, houtput, ho⟩ := section_of_shows h .format
  obtain ⟨logging, hlogging, hl⟩ := section_of_shows h .logLevel
  have hparsed : readParser (.named parser) = .ok settings.parser :=
    (readParser_eq_ok_iff _ _).2 ⟨truth?_of_shows (hp .table rfl) _ _,
      truth?_of_shows (hp .strikethrough rfl) _ _, truth?_of_shows (hp .autolink rfl) _ _⟩
  have hformat : (Content.named output).text? .output 0 "format" = .ok (some settings.format) :=
    text?_of_shows (ho .format rfl) _ _
  have hpretty : (Content.named output).truth? .output 1 "pretty" = .ok (some settings.pretty) :=
    truth?_of_shows (ho .pretty rfl) _ _
  have hlevel : (Content.named logging).text? .logging 0 "level" = .ok (some settings.logLevel) :=
    text?_of_shows (hl .logLevel rfl) _ _
  have hread : readOutput (.named output) = .ok (settings.format, settings.pretty) := by
    unfold readOutput
    dsimp only
    rw [hformat, hpretty]
    rfl
  have hreadLevel : readLogging (.named logging) = .ok settings.logLevel := by
    unfold readLogging
    rw [hlevel]
    rfl
  refine (bind_eq_ok_iff _ _ _).2 ⟨_, hparser, (bind_eq_ok_iff _ _ _).2 ⟨_, hparsed, ?_⟩⟩
  refine (bind_eq_ok_iff _ _ _).2 ⟨_, houtput, (bind_eq_ok_iff _ _ _).2 ⟨_, hread, ?_⟩⟩
  refine (bind_eq_ok_iff _ _ _).2 ⟨_, hlogging, (bind_eq_ok_iff _ _ _).2 ⟨_, hreadLevel, ?_⟩⟩
  rfl

theorem exists_settings {values : Setting → Scalar}
    (h : ∀ s : Setting, s.kind.admits (values s) = true) :
    ∃ settings : Settings, ∀ s, settings.value s = values s := by
  have hboolean {a : Scalar} (ha : SettingKind.boolean.admits a = true) : ∃ b, .boolean b = a := by
    cases a with
    | boolean b => exact ⟨b, rfl⟩
    | _ => cases ha
  have hstring {a : Scalar} (ha : SettingKind.string.admits a = true) : ∃ t, .string t = a := by
    cases a with
    | string t => exact ⟨t, rfl⟩
    | _ => cases ha
  obtain ⟨table, htable⟩ := hboolean (h .table)
  obtain ⟨strikethrough, hstrikethrough⟩ := hboolean (h .strikethrough)
  obtain ⟨autolink, hautolink⟩ := hboolean (h .autolink)
  obtain ⟨format, hformat⟩ := hstring (h .format)
  obtain ⟨pretty, hpretty⟩ := hboolean (h .pretty)
  obtain ⟨level, hlevel⟩ := hstring (h .logLevel)
  refine ⟨⟨⟨table, strikethrough, autolink⟩, format, pretty, level⟩, fun s => ?_⟩
  cases s with
  | table => exact htable
  | strikethrough => exact hstrikethrough
  | autolink => exact hautolink
  | format => exact hformat
  | pretty => exact hpretty
  | logLevel => exact hlevel

end MarkdownToAdf.Config
