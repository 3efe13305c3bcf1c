import MarkdownToAdf.Proofs.Config.Defaults
import MarkdownToAdf.Proofs.Config.Layering
import Mathlib.Data.List.Nodup
import Mathlib.Logic.Relation

set_option autoImplicit false

/-!
# Loaded settings

However files and overrides are mixed, each setting has the value of its last override, else that
of the last file that has one for it, else its default. So it does not matter where overrides
stand between files and between overrides of other settings, nor where files are named that do
not exist. In which order tables are visited matters only for a file that writes a setting twice.
-/
namespace MarkdownToAdf.Config
open Files Text

/-- What is added to a configuration in one step. Files come with the order in which their tables
happen to be visited. -/
inductive Layer where
  | file (name : String) (visit : Visit)
  | optionalFile (name : String) (visit : Visit)
  | override (key : String) (value : Scalar)

def Loader.add (l : Loader) : Layer → Except ConfigError Loader
  | .file name visit => .ok (l.withFile name visit)
  | .optionalFile name visit => .ok (l.withOptionalFile name visit)
  | .override key value => l.withOverride key value

section
variable {here : Files.Place} (d : Directory here)

def build (layers : List Layer) (start : Visit) (order : Order (Place × Scalar)) :
    Except ConfigError Settings := do
  let l ← layers.foldlM Loader.add (.start start)
  l.load d order

def document? (name : String) : Option Toml.Entries :=
  (contents d name).toOption.bind fun found => Toml.ofText? (decodeLossy found.2)

/-- The value that a file of a directory has for a setting. If it has several, the last one that is
visited counts. -/
def Setting.fileValue? (s : Setting) (name : String) (visit : Visit) : Option Scalar :=
  (document? d name).bind fun es => s.inEntries? (visit.arrange es)

namespace Layer

/-- A file is there unless it is optional, and says nothing wrong if it can be read. An override has
the full name of a setting and a value of its kind. -/
def Fits : Layer → Prop
  | file name _ => ∃ es, document? d name = some es ∧ Setting.AllowsAll es
  | optionalFile name _ =>
    ∀ found, contents d name = .ok found → ∃ es, document? d name = some es ∧ Setting.AllowsAll es
  | override key value => ∃ s : Setting, key = s.key ∧ s.kind.admits value = true

def inFile? (s : Setting) : Layer → Option Scalar
  | file name visit | optionalFile name visit => s.fileValue? d name visit
  | override _ _ => none

def overriding? (s : Setting) : Layer → Option Scalar
  | file _ _ | optionalFile _ _ => none
  | override key value => if key = s.key then some value else none

def isOverride : Layer → Bool
  | override _ _ => true
  | _ => false

def source? : Layer → Option Source
  | file name visit => some ⟨.file name true, visit⟩
  | optionalFile name visit => some ⟨.file name false, visit⟩
  | override _ _ => none

def revisited (visit : Visit) : Layer → Layer
  | file name _ => file name visit
  | optionalFile name _ => optionalFile name visit
  | override key value => override key value

def WritesOnce : Layer → Prop
  | file name _ | optionalFile name _ =>
    ∀ es, document? d name = some es → ∀ s : Setting, (s.values es).length ≤ 1
  | override _ _ => True

end Layer

/-- The value of a setting in its last override, else in the last file that has one, else in the
defaults. -/
def Setting.layered (layers : List Layer) (s : Setting) : Option Scalar :=
  ((latest (Layer.overriding? s) layers).or (latest (Layer.inFile? d s) layers)).or s.default?

/-- Layers change places, a file that is not there is named, or a file is visited in another order. -/
inductive Moved : List Layer → List Layer → Prop
  | overFile (before : List Layer) (key : String) (value : Scalar) (file : Layer)
    (hfile : file.isOverride = false) (after : List Layer) :
    Moved (before ++ .override key value :: file :: after)
      (before ++ file :: .override key value :: after)
  | overOther (before : List Layer) (key : String) (value : Scalar) (other : String)
    (otherValue : Scalar) (hother : key ≠ other) (after : List Layer) :
    Moved (before ++ .override key value :: .override other otherValue :: after)
      (before ++ .override other otherValue :: .override key value :: after)
  | absent (before : List Layer) (name : String) (visit : Visit) (habsent : find? d name = none)
    (after : List Layer) :
    Moved (before ++ after) (before ++ .optionalFile name visit :: after)
  | revisited (before : List Layer) (layer : Layer) (visit : Visit) (honce : layer.WritesOnce d)
    (after : List Layer) :
    Moved (before ++ layer :: after) (before ++ layer.revisited visit :: after)

end

theorem sources_add {l l' : Loader} {layer : Layer} (h : l.add layer = .ok l') :
    l'.sources = l.sources ++ layer.source?.toList := by
  cases layer with
  | file name visit => cases h; rfl
  | optionalFile name visit => cases h; rfl
  | override key value =>
    rw [Loader.add, Loader.withOverride] at h
    split at h
    · cases h
      exact (List.append_nil _).symm
    · cases h

theorem sources_of_foldlM {layers : List Layer} {l l' : Loader}
    (h : layers.foldlM Loader.add l = .ok l') :
    l'.sources = l.sources ++ layers.filterMap Layer.source? := by
  induction layers generalizing l with
  | nil =>
    cases h
    exact (List.append_nil _).symm
  | cons layer r ih =>
    rw [List.foldlM_cons] at h
    obtain ⟨l₁, hadd, h⟩ := (bind_eq_ok_iff _ _ _).1 h
    rw [ih h, sources_add hadd, List.append_assoc]
    cases layer <;> rfl

/-- The overrides of a loader that layers were added to: no place twice, only places of settings,
and the last value of each. -/
structure Overrides (l : Loader) (layers : List Layer) : Prop where
  nodup : (l.overrides.map Prod.fst).Nodup
  places : ∀ p ∈ l.overrides.map Prod.fst, ∃ s : Setting, p = s.place
  lookup : ∀ s : Setting, l.overrides.lookup s.place = latest (Layer.overriding? s) layers

namespace Overrides
variable {l : Loader} {layers : List Layer}

theorem start (visit : Visit) : Overrides (.start visit) [] :=
  ⟨List.nodup_nil, fun _ hp => (nomatch hp), fun _ => rfl⟩

theorem addSource (h : Overrides l layers) (sources : List Source) {layer : Layer}
    (hlayer : layer.isOverride = false) :
    Overrides { l with sources := sources } (layers ++ [layer]) where
  nodup := h.nodup
  places := h.places
  lookup := fun s => by
    rw [latest_concat, h.lookup]
    cases layer with
    | override => cases hlayer
    | _ => rfl

theorem addOverride (h : Overrides l layers) (s : Setting) (value : Scalar) :
    Overrides { l with overrides := put s.place value l.overrides }
      (layers ++ [.override s.key value]) where
  nodup := nodup_put _ _ h.nodup
  places := by
    rw [map_fst_put]
    split
    · exact h.places
    · exact List.forall_mem_append.2 ⟨h.places, List.forall_mem_singleton.2 ⟨s, rfl⟩⟩
  lookup := fun t => by
    rw [latest_concat, Layer.overriding?]
    by_cases ht : t = s
    · rw [ht, lookup_put_self, if_pos rfl]
      rfl
    · rw [lookup_put_of_ne (fun hplace => ht (place_inj hplace)), h.lookup,
        if_neg fun hkey => ht (key_inj hkey).symm]
      rfl

theorem of_perm (h : Overrides l layers) {overrides : List (Place × Scalar)}
    (hperm : overrides.Perm l.overrides) : Overrides { l with overrides := overrides } layers where
  nodup := (hperm.map _).nodup_iff.2 h.nodup
  places := fun p hp => h.places p ((hperm.map _).mem_iff.1 hp)
  lookup := fun s => by
    have hnodup : (overrides.map Prod.fst).Nodup := (hperm.map _).nodup_iff.2 h.nodup
    rw [← h.lookup]
    exact lookup_eq_of_perm hperm hnodup s.place

variable {here : Files.Place} {d : Directory here}

theorem add (h : Overrides l layers) {layer : Layer} (hfits : layer.Fits d) :
    ∃ l', l.add layer = .ok l' ∧ Overrides l' (layers ++ [layer]) := by
  cases layer with
  | file name visit => exact ⟨_, rfl, h.addSource _ rfl⟩
  | optionalFile name visit => exact ⟨_, rfl, h.addSource _ rfl⟩
  | override key value =>
    obtain ⟨s, rfl, -⟩ := hfits
    refine ⟨_, ?_, h.addOverride s value⟩
    rw [Loader.add, Loader.withOverride, ofText?_key]

theorem foldlM (h : Overrides l layers) {more : List Layer} (hfits : ∀ layer ∈ more, layer.Fits d) :
    ∃ l', more.foldlM Loader.add l = .ok l' ∧ Overrides l' (layers ++ more) := by
  induction more generalizing l layers with
  | nil => exact ⟨l, rfl, by rwa [List.append_nil]⟩
  | cons layer r ih =>
    obtain ⟨hlayer, hr⟩ := List.forall_mem_cons.1 hfits
    obtain ⟨l₁, hadd, h₁⟩ := h.add hlayer
    obtain ⟨l', hrest, h'⟩ := ih h₁ hr
    refine ⟨l', ?_, by rwa [List.append_assoc] at h'⟩
    rw [List.foldlM_cons]
    exact (bind_eq_ok_iff _ _ _).2 ⟨l₁, hadd, hrest⟩

end Overrides

section
variable {here : Files.Place} {d : Directory here} {v : Value} {values : Setting → Option Scalar}

theorem contents_of_absent {name : String} (habsent : find? d name = none) :
    ∃ e, contents d name = .error e := by
  rw [contents, habsent]
  exact ⟨_, rfl⟩

theorem document?_of_error {name : String} {e : ConfigError} (h : contents d name = .error e) :
    document? d name = none := by
  rw [document?, h]
  rfl

theorem document?_eq_some_iff {name : String} {es : Toml.Entries} :
    document? d name = some es ↔
      ∃ found, contents d name = .ok found ∧ Toml.ofText? (decodeLossy found.2) = some es := by
  unfold document?
  cases contents d name with
  | error e => exact ⟨nofun, fun ⟨_, h, _⟩ => nomatch h⟩
  | ok found =>
    constructor
    · intro h
      exact ⟨found, rfl, h⟩
    · rintro ⟨_, ⟨⟩, h⟩
      exact h

theorem fileValue?_of_document? {name : String} {es : Toml.Entries}
    (h : document? d name = some es) (s : Setting) (visit : Visit) :
    s.fileValue? d name visit = s.inEntries? (visit.arrange es) := by
  rw [Setting.fileValue?, h, Option.bind_some]

theorem fileValue?_of_error {name : String} {e : ConfigError} (h : contents d name = .error e)
    (s : Setting) (visit : Visit) : s.fileValue? d name visit = none := by
  rw [Setting.fileValue?, document?_of_error h, Option.bind_none]

theorem collect_of_found {name : String} {found : String × List UInt8}
    (h : contents d name = .ok found) (required : Bool) (visit : Visit) :
    Source.collect d ⟨.file name required, visit⟩ =
      Source.entries ⟨.file name required, visit⟩ (some found.1) (decodeLossy found.2) := by
  rw [Source.collect]
  simp only [h]

theorem collect_of_error {name : String} {e : ConfigError} (h : contents d name = .error e)
    (required : Bool) (visit : Visit) : Source.collect d ⟨.file name required, visit⟩ =
      if required then .error e else .ok [] := by
  rw [Source.collect]
  simp only [h]

theorem shows_entries (source : Source) (origin : Option String) {text : String}
    {es : Toml.Entries} (hes : Toml.ofText? text = some es) (hallows : Setting.AllowsAll es)
    (h : ∀ s, Shows (v.at? s) (values s)) :
    ∃ collected, source.entries origin text = .ok collected ∧ ∀ s, Shows
      ((v.layFile collected).at? s) ((s.inEntries? (source.visit.arrange es)).or (values s)) := by
  refine ⟨Value.ofEntries origin (source.visit.arrange es), by rw [Source.entries, hes],
    fun s => ?_⟩
  exact shows_layFile _ (Setting.AllowsAll.of_visited (source.visit.visited es) hallows s) (h s)

theorem lay_document {name : String} {visit : Visit} {required : Bool} {es : Toml.Entries}
    (hes : document? d name = some es) (hallows : Setting.AllowsAll es)
    (h : ∀ s, Shows (v.at? s) (values s)) :
    ∃ v', Source.lay d ⟨.file name required, visit⟩ v = .ok v' ∧
      ∀ s, Shows (v'.at? s) ((s.fileValue? d name visit).or (values s)) := by
  obtain ⟨found, hfound, htext⟩ := document?_eq_some_iff.1 hes
  obtain ⟨collected, hcollected, hshows⟩ :=
    shows_entries ⟨.file name required, visit⟩ (some found.1) htext hallows h
  have hcollect := (collect_of_found hfound required visit).trans hcollected
  refine ⟨v.layFile collected, (map_eq_ok_iff _ _ _).2 ⟨_, hcollect, rfl⟩, fun s => ?_⟩
  rw [fileValue?_of_document? hes]
  exact hshows s

theorem lay_source {layer : Layer} {source : Source} (hsource : layer.source? = some source)
    (hfits : layer.Fits d) (h : ∀ s, Shows (v.at? s) (values s)) :
    ∃ v', source.lay d v = .ok v' ∧
      ∀ s, Shows (v'.at? s) ((layer.inFile? d s).or (values s)) := by
  cases layer with
  | override key value => cases hsource
  | file name visit =>
    cases hsource
    obtain ⟨es, hes, hallows⟩ := hfits
    exact lay_document hes hallows h
  | optionalFile name visit =>
    cases hsource
    cases hfound : contents d name with
    | ok found =>
      obtain ⟨es, hes, hallows⟩ := hfits found hfound
      exact lay_document hes hallows h
    | error e =>
      have hcollect := collect_of_error hfound false visit
      refine ⟨v, (map_eq_ok_iff _ _ _).2 ⟨_, hcollect, rfl⟩, fun s => ?_⟩
      rw [Layer.inFile?, fileValue?_of_error hfound, Option.none_or]
      exact h s

theorem lay_sources {layers : List Layer} (hfits : ∀ layer ∈ layers, layer.Fits d)
    (h : ∀ s, Shows (v.at? s) (values s)) :
    ∃ v', (layers.filterMap Layer.source?).foldlM (fun v s => s.lay d v) v = .ok v' ∧
      ∀ s, Shows (v'.at? s) ((latest (Layer.inFile? d s) layers).or (values s)) := by
  induction layers generalizing v values with
  | nil => exact ⟨v, rfl, h⟩
  | cons layer r ih =>
    obtain ⟨hlayer, hr⟩ := List.forall_mem_cons.1 hfits
    simp only [latest_cons_or]
    cases hsource : layer.source? with
    | none =>
      rw [List.filterMap_cons_none hsource]
      cases layer with
      | override key value => exact ih hr h
      | _ => cases hsource
    | some source =>
      obtain ⟨v₁, hlay, h₁⟩ := lay_source hsource hlayer h
      obtain ⟨v', hrest, h'⟩ := ih hr h₁
      refine ⟨v', ?_, h'⟩
      rw [List.filterMap_cons_some hsource, List.foldlM_cons]
      exact (bind_eq_ok_iff _ _ _).2 ⟨v₁, hlay, hrest⟩

theorem lay_defaults (visit : Visit) : ∃ v, (Source.defaults visit).lay d .empty = .ok v ∧
    ∀ s : Setting, Shows (v.at? s) (some (Settings.defaults.value s)) := by
  obtain ⟨es, hes, hallows, hvalues⟩ := exists_defaults
  have hempty : ∀ s : Setting, Shows (Value.empty.at? s) none := fun _ => rfl
  obtain ⟨collected, hcollected, hshows⟩ :=
    shows_entries (.defaults visit) none hes hallows hempty
  refine ⟨_, (map_eq_ok_iff _ _ _).2 ⟨_, hcollected, rfl⟩, fun s => ?_⟩
  have honce : (s.values es).length ≤ 1 := by simp [hvalues]
  have hvalue : s.inEntries? (visit.arrange es) = some (Settings.defaults.value s) :=
    (inEntries?_of_visited (visit.visited es) s honce).trans (congrArg List.getLast? (hvalues s))
  rw [← hvalue, ← Option.or_none (o := s.inEntries? _)]
  exact hshows s

theorem shows_override (t : Setting) (a : Scalar) (h : ∀ s, Shows (v.at? s) (values s))
    (s : Setting) :
    Shows ((v.setPlace t.place (.scalar none a)).at? s) (if s = t then some a else values s) := by
  by_cases hs : s = t
  · rw [hs, if_pos rfl]
    exact ⟨none, v.at?_setPlace_scalar t (lowercase_sectionKey t) (lowercase_name t) none a⟩
  · rw [if_neg hs]
    by_cases hsection : t.section.key = s.section.key
    · have hname : lowercase t.name ≠ s.name := fun hname => hs <| place_inj <| by
        rw [Setting.place, Setting.place, hsection, ← hname, lowercase_name]
      have hkept := v.at?_setPlace_of_key s ((lowercase_sectionKey t).trans hsection) hname []
        (.scalar none a)
      rw [Setting.place, hkept]
      exact h s
    · have hfirst : lowercase t.section.key ≠ s.section.key := by rwa [lowercase_sectionKey]
      rw [Setting.place, v.at?_setPlace_of_first s hfirst]
      exact h s

theorem shows_overrides (overrides : List (Place × Scalar))
    (hnodup : (overrides.map Prod.fst).Nodup)
    (hplaces : ∀ p ∈ overrides.map Prod.fst, ∃ s : Setting, p = s.place)
    (h : ∀ s, Shows (v.at? s) (values s)) (s : Setting) :
    Shows ((overrides.foldl (fun v (p, a) => v.setPlace p (.scalar none a)) v).at? s)
      ((overrides.lookup s.place).or (values s)) := by
  induction overrides generalizing v values with
  | nil => exact h s
  | cons e r ih =>
    obtain ⟨p, a⟩ := e
    obtain ⟨hp, hr⟩ := List.nodup_cons.1 hnodup
    obtain ⟨⟨t, rfl⟩, hplacesr⟩ := List.forall_mem_cons.1 hplaces
    have hrest := ih hr hplacesr (shows_override t a h)
    by_cases hs : s = t
    · -- no later override has the place of the first
      have hnone : r.lookup t.place = none :=
        List.lookup_eq_none_iff.2 fun e he => bne_iff_ne.2 fun hplace =>
          hp (List.mem_map.2 ⟨e, he, hplace.symm⟩)
      rw [if_pos hs, hs, hnone] at hrest
      rw [hs, List.lookup_cons_self]
      exact hrest
    · rw [if_neg hs] at hrest
      rw [List.lookup_cons, beq_false_of_ne fun hplace => hs (place_inj hplace)]
      exact hrest

end

theorem default?_eq (s : Setting) : s.default? = some (Settings.defaults.value s) := by
  obtain ⟨es, hes, -, hvalues⟩ := exists_defaults
  rw [Setting.default?, hes, Option.bind_some]
  exact congrArg List.getLast? (hvalues s)

section
variable {here : Files.Place} {d : Directory here}

theorem admits_fileValue? {s : Setting} {name : String} {visit : Visit} {a : Scalar}
    (h : s.fileValue? d name visit = some a) : s.kind.admits a = true := by
  obtain ⟨es, -, h⟩ := Option.bind_eq_some_iff.1 h
  obtain ⟨e, -, h⟩ := exists_of_latest h
  rw [Setting.read?] at h
  split at h
  · exact SettingKind.admits_of_read? h
  · cases h

theorem admits_inFile? {s : Setting} {layer : Layer} {a : Scalar}
    (h : layer.inFile? d s = some a) : s.kind.admits a = true := by
  cases layer with
  | file name visit => exact admits_fileValue? h
  | optionalFile name visit => exact admits_fileValue? h
  | override key value => cases h

theorem admits_overriding? {s : Setting} {layer : Layer} (hfits : layer.Fits d) {a : Scalar}
    (h : layer.overriding? s = some a) : s.kind.admits a = true := by
  cases layer with
  | file name visit => cases h
  | optionalFile name visit => cases h
  | override key value =>
    obtain ⟨t, rfl, hadmits⟩ := hfits
    rw [Layer.overriding?] at h
    split at h
    · rename_i hkey
      cases h
      rwa [← key_inj hkey]
    · cases h

theorem admits_layered {layers : List Layer} (hfits : ∀ layer ∈ layers, layer.Fits d)
    (s : Setting) : ∃ a, s.layered d layers = some a ∧ s.kind.admits a = true := by
  rw [Setting.layered]
  cases hoverride : latest (Layer.overriding? s) layers with
  | some a =>
    obtain ⟨layer, hlayer, h⟩ := exists_of_latest hoverride
    exact ⟨a, rfl, admits_overriding? (hfits layer hlayer) h⟩
  | none =>
    cases hfile : latest (Layer.inFile? d s) layers with
    | some a =>
      obtain ⟨layer, -, h⟩ := exists_of_latest hfile
      exact ⟨a, rfl, admits_inFile? h⟩
    | none =>
      rw [Option.or_none, Option.none_or, default?_eq]
      refine ⟨_, rfl, ?_⟩
      cases s <;> rfl

theorem build_of_fits {layers : List Layer} (hfits : ∀ layer ∈ layers, layer.Fits d)
    (start : Visit) (order : Order (Place × Scalar)) :
    ∃ settings, build d layers start order = .ok settings ∧
      ∀ s, s.layered d layers = some (settings.value s) := by
  choose values hvalues hadmits using admits_layered hfits
  obtain ⟨settings, hsettings⟩ := exists_settings hadmits
  obtain ⟨l, hl, ho⟩ := (Overrides.start start).foldlM hfits
  obtain ⟨v₀, hv₀, hdefaults⟩ := lay_defaults (d := d) start
  obtain ⟨v, hv, hfiles⟩ := lay_sources hfits hdefaults
  have hsources : l.sources = .defaults start :: layers.filterMap Layer.source? :=
    sources_of_foldlM hl
  have hordered := ho.of_perm (order.perm l.overrides)
  have hshows : ∀ s, Shows
      (((order.arrange l.overrides).foldl (fun v (p, a) => v.setPlace p (.scalar none a)) v).at? s)
      (some (settings.value s)) := fun s => by
    -- wherever an override was added, it is laid after all files
    have h := shows_overrides _ hordered.nodup hordered.places hfiles s
    rw [hordered.lookup, List.nil_append, ← Option.or_assoc, ← default?_eq] at h
    rw [hsettings, ← hvalues]
    exact h
  refine ⟨settings, (bind_eq_ok_iff _ _ _).2 ⟨l, hl, ?_⟩, fun s => by rw [hsettings, hvalues]⟩
  refine (bind_eq_ok_iff _ _ _).2 ⟨_, ?_, read_of_shows settings hshows⟩
  refine (bind_eq_ok_iff _ _ _).2 ⟨v, ?_, rfl⟩
  rw [hsources, List.foldlM_cons]
  exact (bind_eq_ok_iff _ _ _).2 ⟨v₀, hv₀, hv⟩

theorem fits_of_absent {name : String} (habsent : find? d name = none) (visit : Visit) :
    Layer.Fits d (.optionalFile name visit) := by
  obtain ⟨e, he⟩ := contents_of_absent habsent
  intro found hfound
  rw [he] at hfound
  cases hfound

/-- Where no file is found, everything is as in the defaults. -/
theorem load_of_absent {name : String} (habsent : find? d name = none) (visit start : Visit)
    (order : Order (Place × Scalar)) :
    ((Loader.start start).withOptionalFile name visit).load d order = .ok .defaults := by
  obtain ⟨settings, hbuild, hvalue⟩ := build_of_fits
    (List.forall_mem_singleton.2 (fits_of_absent habsent visit)) start order
  obtain ⟨e, he⟩ := contents_of_absent habsent
  obtain rfl : settings = .defaults := Settings.ext_value fun s => Option.some.inj <| by
    rw [← hvalue, Setting.layered, latest_singleton, latest_singleton, Layer.inFile?,
      fileValue?_of_error he, Layer.overriding?, Option.none_or, Option.none_or, default?_eq]
  obtain ⟨l, hl, hload⟩ := (bind_eq_ok_iff _ _ _).1 hbuild
  cases hl
  exact hload

theorem fits_revisited (layer : Layer) (visit : Visit) :
    (layer.revisited visit).Fits d ↔ layer.Fits d := by
  cases layer <;> rfl

theorem fits_of_moved {a b : List Layer} (h : Moved d a b) :
    (∀ layer ∈ a, layer.Fits d) ↔ ∀ layer ∈ b, layer.Fits d := by
  cases h with
  | overFile before key value file hfile after =>
    simp only [List.forall_mem_append, List.forall_mem_cons]
    tauto
  | overOther before key value other otherValue hother after =>
    simp only [List.forall_mem_append, List.forall_mem_cons]
    tauto
  | absent before name visit habsent after =>
    simp only [List.forall_mem_append, List.forall_mem_cons, fits_of_absent habsent, true_and]
  | revisited before layer visit honce after =>
    simp only [List.forall_mem_append, List.forall_mem_cons, fits_revisited]

theorem inFile?_revisited {layer : Layer} (honce : layer.WritesOnce d) (visit : Visit)
    (s : Setting) : (layer.revisited visit).inFile? d s = layer.inFile? d s := by
  have hfile (name : String) (other : Visit)
      (h : ∀ es, document? d name = some es → ∀ s : Setting, (s.values es).length ≤ 1) :
      s.fileValue? d name visit = s.fileValue? d name other := by
    cases hdocument : document? d name with
    | none => rw [Setting.fileValue?, Setting.fileValue?, hdocument, Option.bind_none, Option.bind_none]
    | some es =>
      have hes := h es hdocument s
      rw [fileValue?_of_document? hdocument, fileValue?_of_document? hdocument,
        inEntries?_of_visited (visit.visited es) s hes, inEntries?_of_visited (other.visited es) s hes]
  cases layer with
  | file name other => exact hfile name other honce
  | optionalFile name other => exact hfile name other honce
  | override key value => rfl

theorem layered_of_moved {a b : List Layer} (h : Moved d a b) (s : Setting) :
    s.layered d a = s.layered d b := by
  cases h with
  | overFile before key value file hfile after =>
    have hnone : file.overriding? s = none := by
      cases file with
      | override => cases hfile
      | _ => rfl
    have hfile : Layer.inFile? d s (.override key value) = none := rfl
    rw [Setting.layered, latest_swap (.inr hnone), latest_swap (.inl hfile), Setting.layered]
  | overOther before key value other otherValue hother after =>
    have hnone : Layer.overriding? s (.override key value) = none ∨
        Layer.overriding? s (.override other otherValue) = none := by
      by_cases hkey : key = s.key
      · exact .inr (if_neg fun h => hother (hkey.trans h.symm))
      · exact .inl (if_neg hkey)
    have hfile : Layer.inFile? d s (.override key value) = none := rfl
    rw [Setting.layered, latest_swap hnone, latest_swap (.inl hfile), Setting.layered]
  | absent before name visit habsent after =>
    obtain ⟨e, he⟩ := contents_of_absent habsent
    have hnone : Layer.inFile? d s (.optionalFile name visit) = none := fileValue?_of_error he s visit
    rw [Setting.layered, Setting.layered, latest_insert rfl, latest_insert hnone]
  | revisited before layer visit honce after =>
    have hoverriding : (layer.revisited visit).overriding? s = layer.overriding? s := by
      cases layer <;> rfl
    rw [Setting.layered, Setting.layered, latest_congr hoverriding,
      latest_congr (inFile?_revisited honce visit s)]

theorem layered_of_moves {a b : List Layer} (h : Relation.EqvGen (Moved d) a b) :
    ((∀ layer ∈ a, layer.Fits d) ↔ ∀ layer ∈ b, layer.Fits d) ∧
      ∀ s : Setting, s.layered d a = s.layered d b := by
  induction h with
  | rel a b h => exact ⟨fits_of_moved h, layered_of_moved h⟩
  | refl a => exact ⟨Iff.rfl, fun s => rfl⟩
  | symm a b _ ih => exact ⟨ih.1.symm, fun s => (ih.2 s).symm⟩
  | trans a b c _ _ hab hbc => exact ⟨hab.1.trans hbc.1, fun s => (hab.2 s).trans (hbc.2 s)⟩

theorem build_of_moves {a b : List Layer} (hfits : ∀ layer ∈ a, layer.Fits d)
    (h : Relation.EqvGen (Moved d) a b) (start start' : Visit)
    (order order' : Order (Place × Scalar)) :
    build d b start' order' = build d a start order := by
  obtain ⟨hfits', hlayered⟩ := layered_of_moves h
  obtain ⟨settings, hbuild, hsettings⟩ := build_of_fits hfits start order
  obtain ⟨settings', hbuild', hsettings'⟩ := build_of_fits (hfits'.1 hfits) start' order'
  have hequal : settings' = settings := Settings.ext_value fun s => Option.some.inj <| by
    rw [← hsettings', ← hsettings, hlayered]
  rw [hbuild, hbuild', hequal]

theorem build_of_missing {layers : List Layer} {name : String} {visit : Visit}
    (hname : .file name visit ∈ layers) {e : ConfigError} (hmissing : contents d name = .error e)
    (start : Visit) (order : Order (Place × Scalar)) :
    ∃ e, build d layers start order = .error e := by
  cases h : build d layers start order with
  | error e => exact ⟨e, rfl⟩
  | ok settings =>
    obtain ⟨l, hl, hload⟩ := (bind_eq_ok_iff _ _ _).1 h
    obtain ⟨v, htree, -⟩ := (bind_eq_ok_iff _ _ _).1 hload
    obtain ⟨w, hlay, -⟩ := (bind_eq_ok_iff _ _ _).1 htree
    have hsource : ⟨.file name true, visit⟩ ∈ l.sources := by
      rw [sources_of_foldlM hl]
      exact List.mem_append_right _ (List.mem_filterMap.2 ⟨_, hname, rfl⟩)
    -- whatever was laid before it, the missing file stops the run of files
    obtain ⟨x, y, hstep⟩ := exists_ok_of_foldlM hlay _ hsource
    obtain ⟨collected, hcollect, -⟩ := (map_eq_ok_iff _ _ _).1 hstep
    rw [collect_of_error hmissing, if_pos rfl] at hcollect
    cases hcollect

/-- Layers that fit can be loaded. Each setting then has the value of its last override, else that
of the last file that has one, else its default, so that moving layers changes nothing. No layers
can be loaded if one of them is a file that must be there and is not, or cannot be read. -/
theorem build_layers (d : Directory here) (layers : List Layer) (start : Visit)
    (order : Order (Place × Scalar)) :
    ((∀ layer ∈ layers, layer.Fits d) →
      (∃ settings, build d layers start order = .ok settings ∧
        ∀ s, s.layered d layers = some (settings.value s)) ∧
      ∀ moved, Relation.EqvGen (Moved d) layers moved → ∀ start' order',
        build d moved start' order' = build d layers start order) ∧
    (∀ name visit, .file name visit ∈ layers → find? d name = none →
      ∃ e, build d layers start order = .error e) ∧
    ∀ name visit e, .file name visit ∈ layers → contents d name = .error e →
      ∃ e, build d layers start order = .error e := by
  refine ⟨fun hfits => ⟨build_of_fits hfits start order, ?_⟩, ?_, ?_⟩
  · exact fun moved h start' order' => build_of_moves hfits h start start' order order'
  · intro name visit hname habsent
    obtain ⟨e, he⟩ := contents_of_absent habsent
    exact build_of_missing hname he start order
  · exact fun name visit e hname hmissing => build_of_missing hname hmissing start order

end

def withoutTables : Directory ["home"] :=
  ⟨[(["home", "a.toml"], bytesOf "[parser]\ntable = false\nwidth = 3\n".toList),
      (["home", "c.toml"], [])],
    [(["home", "c.toml"], .refuses .read "Permission denied (os error 13)")]⟩

theorem build_layers_withoutTables :
    (∃ settings, build withoutTables
        [.override "output.format" (.string "treeviz"), .file "a.toml" .asWritten] .asWritten
          .asAdded = .ok settings ∧
      settings.value .table = .boolean false ∧ settings.value .format = .string "treeviz") ∧
    build withoutTables
        [.file "a.toml" .asWritten, .override "output.format" (.string "treeviz")] .asWritten
          .asAdded =
      build withoutTables
        [.override "output.format" (.string "treeviz"), .file "a.toml" .asWritten] .asWritten
          .asAdded ∧
    (∃ e, build withoutTables [.file "b.toml" .asWritten] .asWritten .asAdded = .error e) ∧
    ∃ e, build withoutTables [.file "c.toml" .asWritten] .asWritten .asAdded = .error e := by
  have hfile : Layer.Fits withoutTables (.file "a.toml" .asWritten) := by
    refine ⟨[("parser", .table .header [("table", .boolean false), ("width", .integer 3)])], rfl, ?_⟩
    intro s
    cases s <;> decide
  have hoverride : Layer.Fits withoutTables (.override "output.format" (.string "treeviz")) :=
    ⟨.format, rfl, rfl⟩
  obtain ⟨hloaded, -⟩ := build_layers withoutTables
    [.override "output.format" (.string "treeviz"), .file "a.toml" .asWritten] .asWritten .asAdded
  obtain ⟨⟨settings, hbuild, hvalue⟩, hmoved⟩ :=
    hloaded (List.forall_mem_cons.2 ⟨hoverride, List.forall_mem_singleton.2 hfile⟩)
  refine ⟨⟨settings, hbuild, ?_, ?_⟩, hmoved _ (.rel _ _ (.overFile [] _ _ _ rfl [])) _ _,
    (build_layers withoutTables [.file "b.toml" .asWritten] _ _).2.1 _ _
      (List.mem_singleton_self _) (by decide),
    (build_layers withoutTables [.file "c.toml" .asWritten] _ _).2.2 _ _ _
      (List.mem_singleton_self _) rfl⟩
  · exact (Option.some.inj (hvalue .table)).symm
  · exact (Option.some.inj (hvalue .format)).symm

end MarkdownToAdf.Config
