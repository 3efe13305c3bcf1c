import MarkdownToAdf.Config.Loader

set_option autoImplicit false

/-!
# The six settings

Each setting by its section and its name, and what a file says about it. Keys of a file are read
as places, and whether their letters are small does not matter.
-/
namespace MarkdownToAdf.Config
open Text

/-- The last of the values that are found in a list. -/
def latest {α β : Type} (value? : α → Option β) (l : List α) : Option β :=
  (l.filterMap value?).getLast?

section
variable {α β : Type} {value? : α → Option β}

theorem latest_append (a b : List α) :
    latest value? (a ++ b) = (latest value? b).or (latest value? a) := by
  rw [latest, List.filterMap_append, List.getLast?_append]
  rfl

theorem latest_singleton (x : α) : latest value? [x] = value? x := by
  unfold latest
  cases h : value? x <;> simp [h]

theorem latest_concat (l : List α) (x : α) :
    latest value? (l ++ [x]) = (value? x).or (latest value? l) := by
  rw [latest_append, latest_singleton]

theorem latest_insert {x : α} (h : value? x = none) (before after : List α) :
    latest value? (before ++ x :: after) = latest value? (before ++ after) := by
  simp only [latest, List.filterMap_append, List.filterMap_cons_none h]

theorem latest_swap {x y : α} (h : value? x = none ∨ value? y = none) (before after : List α) :
    latest value? (before ++ x :: y :: after) = latest value? (before ++ y :: x :: after) := by
  have hswap : List.filterMap value? (x :: y :: after) = List.filterMap value? (y :: x :: after) := by
    rcases h with h | h <;> simp [List.filterMap_cons, h]
  simp only [latest, List.filterMap_append, hswap]

theorem latest_congr {x y : α} (h : value? x = value? y) (before after : List α) :
    latest value? (before ++ y :: after) = latest value? (before ++ x :: after) := by
  simp only [latest, List.filterMap_append, List.filterMap_cons, h]

theorem latest_eq_none {l : List α} (h : ∀ x ∈ l, value? x = none) : latest value? l = none := by
  rw [latest, List.filterMap_eq_nil_iff.2 h, List.getLast?_nil]

theorem exists_of_latest {l : List α} {b : β} (h : latest value? l = some b) :
    ∃ x ∈ l, value? x = some b :=
  List.mem_filterMap.1 (List.mem_of_getLast? h)

theorem latest_append_or (a b : List α) (earlier : Option β) :
    (latest value? (a ++ b)).or earlier = (latest value? b).or ((latest value? a).or earlier) := by
  rw [latest_append, Option.or_assoc]

theorem latest_cons_or (x : α) (l : List α) (earlier : Option β) :
    (latest value? (x :: l)).or earlier = (latest value? l).or ((value? x).or earlier) := by
  rw [← List.singleton_append, latest_append_or, latest_singleton]

end

inductive Setting where
  | table
  | strikethrough
  | autolink
  | format
  | pretty
  | logLevel
  deriving DecidableEq, Repr

namespace Setting

def name : Setting → String
  | table => "table"
  | strikethrough => "strikethrough"
  | autolink => "autolink"
  | format => "format"
  | pretty => "pretty"
  | logLevel => "level"

def kind : Setting → SettingKind
  | table | strikethrough | autolink | pretty => .boolean
  | format | logLevel => .string

end Setting

def Setting.section : Setting → Section
  | .table | .strikethrough | .autolink => .parser
  | .format | .pretty => .output
  | .logLevel => .logging

def Setting.place (s : Setting) : Place :=
  ⟨s.section.key, [.key s.name]⟩

def Setting.key (s : Setting) : String :=
  s.section.key ++ "." ++ s.name

def Settings.value (settings : Settings) : Setting → Scalar
  | .table => .boolean settings.parser.table
  | .strikethrough => .boolean settings.parser.strikethrough
  | .autolink => .boolean settings.parser.autolink
  | .format => .string settings.format
  | .pretty => .boolean settings.pretty
  | .logLevel => .string settings.logLevel

/-- The values of a kind of settings are those that need no conversion. -/
def SettingKind.admits : SettingKind → Scalar → Bool
  | .boolean, .boolean _ => true
  | .string, .string _ => true
  | _, _ => false

theorem ofText?_key (s : Setting) : Place.ofText? s.key = some s.place := by
  cases s <;> decide

theorem place_inj {s t : Setting} (h : s.place = t.place) : s = t := by
  revert h
  cases s <;> cases t <;> decide

theorem key_inj {s t : Setting} (h : s.key = t.key) : s = t := by
  have hplace := congrArg Place.ofText? h
  rw [ofText?_key, ofText?_key, Option.some_inj] at hplace
  exact place_inj hplace

theorem lowercase_sectionKey (s : Setting) : lowercase s.section.key = s.section.key := by
  cases s <;> decide

theorem lowercase_name (s : Setting) : lowercase s.name = s.name := by
  cases s <;> decide

theorem Settings.ext_value {a b : Settings} (h : ∀ s, a.value s = b.value s) : a = b := by
  obtain ⟨⟨table, strikethrough, autolink⟩, format, pretty, level⟩ := a
  obtain ⟨⟨table', strikethrough', autolink'⟩, format', pretty', level'⟩ := b
  obtain rfl := Scalar.boolean.inj (h .table)
  obtain rfl := Scalar.boolean.inj (h .strikethrough)
  obtain rfl := Scalar.boolean.inj (h .autolink)
  obtain rfl := Scalar.string.inj (h .format)
  obtain rfl := Scalar.boolean.inj (h .pretty)
  obtain rfl := Scalar.string.inj (h .logLevel)
  rfl

def placeOf (key : String) : Place :=
  (Place.ofText? key).getD ⟨key, []⟩

/-- Where the values of an entry go. The entries of a table under a single key go below it. -/
def placed (entry : String × Toml) : List (Place × Toml) :=
  match placeOf entry.1, entry.2 with
  | ⟨first, []⟩, .table _ es => es.map fun (k, v) => (⟨first, [.key k]⟩, v)
  | place, v => [(place, v)]

def SettingKind.read? : SettingKind → Toml → Option Scalar
  | .boolean, .boolean b => some (.boolean b)
  | .string, .string s => some (.string s)
  | _, _ => none

namespace Setting

def isAt (s : Setting) (p : Place) : Bool :=
  lowercase p.first == s.section.key && match p.steps with
    | [.key k] => lowercase k == s.name
    | _ => false

def read? (s : Setting) (e : Place × Toml) : Option Scalar :=
  if s.isAt e.1 then s.kind.read? e.2 else none

/-- What stands in the section of a setting has a key there. If that is the name of the setting,
it is a value of its kind. -/
def allows (s : Setting) (e : Place × Toml) : Bool :=
  lowercase e.1.first != s.section.key || match e.1.steps with
    | .key k :: below => lowercase k != s.name || below.isEmpty && (s.kind.read? e.2).isSome
    | _ => false

def values (s : Setting) (es : Toml.Entries) : List Scalar :=
  (es.flatMap placed).filterMap s.read?

def inEntries? (s : Setting) (es : Toml.Entries) : Option Scalar :=
  latest s.read? (es.flatMap placed)

def default? (s : Setting) : Option Scalar :=
  (Toml.ofText? defaultText).bind s.inEntries?

/-- The sections in the entries of a file are tables, and their settings have values of their
kinds. Other keys may hold anything. -/
def AllowsAll (es : Toml.Entries) : Prop :=
  ∀ s : Setting, (es.flatMap placed).all s.allows = true

end Setting

theorem SettingKind.admits_of_read? {kind : SettingKind} {v : Toml} {a : Scalar}
    (h : kind.read? v = some a) : kind.admits a = true := by
  unfold SettingKind.read? at h
  split at h
  · cases h; rfl
  · cases h; rfl
  · cases h

theorem SettingKind.ofToml_of_read? {kind : SettingKind} {v : Toml} {a : Scalar}
    (h : kind.read? v = some a) (origin : Option String) :
    Value.ofToml origin v = .scalar origin a := by
  unfold SettingKind.read? at h
  split at h
  · cases h; rfl
  · cases h; rfl
  · cases h

end MarkdownToAdf.Config
