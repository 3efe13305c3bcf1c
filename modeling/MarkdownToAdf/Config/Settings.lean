import MarkdownToAdf.Config.Error
import MarkdownToAdf.Source.Extensions

set_option autoImplicit false

/-!
# Settings

The six settings, and how they are read from a configuration tree. A section is a table, or an
array that holds its settings in order. Truth values and texts are read generously: numbers and
words can be truth values, and all single values but nothing can be texts. Settings are read in
their order here, which shows only in the error where several of them cannot be read.
-/
namespace MarkdownToAdf.Config
open Text

structure ParserSettings where
  table : Bool
  strikethrough : Bool
  autolink : Bool
  deriving DecidableEq, Repr

def ParserSettings.extensions (p : ParserSettings) : Source.Extensions :=
  { table := p.table, strikethrough := p.strikethrough, autolink := p.autolink }

structure Settings where
  parser : ParserSettings
  format : String
  pretty : Bool
  logLevel : String
  deriving DecidableEq, Repr

def Settings.extensions (s : Settings) : Source.Extensions :=
  s.parser.extensions

/-- The truth value of a single value. A word that is none is returned in small letters. -/
def Scalar.truth : Scalar → Except Scalar Bool
  | nothing => .error nothing
  | boolean b => .ok b
  | integer n => .ok (n != 0)
  | float x => .ok !x.isZero
  | string s =>
    let word := lowercase s
    if ["1", "true", "on", "yes"].contains word then .ok true
    else if ["0", "false", "off", "no"].contains word then .ok false
    else .error (string word)

def Scalar.text : Scalar → Except Scalar String
  | nothing => .error nothing
  | boolean b => .ok (toString b)
  | integer n => .ok (toString n)
  | float x => .ok x.text
  | string s => .ok s

def Value.read {α : Type} (kind : SettingKind) (readScalar : Scalar → Except Scalar α)
    (key : String) : Value → Except ConfigError α
  | scalar origin s =>
    match readScalar s with
    | .ok a => .ok a
    | .error s => .error (.wrongSetting (.scalar s) kind key origin)
  | array origin _ => .error (.wrongSetting .sequence kind key origin)
  | table origin _ => .error (.wrongSetting .map kind key origin)

/-- A section that can hold settings, by their names or in order. -/
inductive Content where
  | named (entries : List (String × Value))
  | listed (items : List Value)

def Section.content (s : Section) : Value → Except ConfigError Content
  | .scalar _ found => .error (.wrongSection found s)
  | .array _ items => .ok (.listed items)
  | .table _ es => .ok (.named es)

def Content.get? (s : Section) (n : Nat) (name : String) : Content → Option (String × Value)
  | named es => (es.lookup name).map fun v => (s.key ++ "." ++ name, v)
  | listed items => items[n]?.map fun v => (s.key ++ "[" ++ toString n ++ "]", v)

def Content.lack (s : Section) (name : String) : Content → ConfigError
  | named _ => .missingKey name
  | listed items => .shortSection items.length s

def Content.truth? (s : Section) (n : Nat) (name : String) (c : Content) :
    Except ConfigError (Option Bool) :=
  (c.get? s n name).mapM fun (key, v) => v.read .boolean Scalar.truth key

def Content.text? (s : Section) (n : Nat) (name : String) (c : Content) :
    Except ConfigError (Option String) :=
  (c.get? s n name).mapM fun (key, v) => v.read .string Scalar.text key

def Content.require {α : Type} (s : Section) (name : String) (c : Content) :
    Option α → Except ConfigError α
  | some a => .ok a
  | none => .error (c.lack s name)

def Value.section (v : Value) (s : Section) : Except ConfigError Content :=
  match v.get? s.key with
  | some v => s.content v
  | none => .error (.missingKey s.key)

def readParser (c : Content) : Except ConfigError ParserSettings := do
  let s := Section.parser
  let table ← c.truth? s 0 "table"
  let strikethrough ← c.truth? s 1 "strikethrough"
  let autolink ← c.truth? s 2 "autolink"
  return ⟨← c.require s "table" table, ← c.require s "strikethrough" strikethrough,
    ← c.require s "autolink" autolink⟩

def readOutput (c : Content) : Except ConfigError (String × Bool) := do
  let s := Section.output
  let format ← c.text? s 0 "format"
  let pretty ← c.truth? s 1 "pretty"
  return (← c.require s "format" format, ← c.require s "pretty" pretty)

def readLogging (c : Content) : Except ConfigError String := do
  let level ← c.text? .logging 0 "level"
  c.require .logging "level" level

def Settings.read (v : Value) : Except ConfigError Settings := do
  let parser ← readParser (← v.section .parser)
  let (format, pretty) ← readOutput (← v.section .output)
  let logLevel ← readLogging (← v.section .logging)
  return ⟨parser, format, pretty, logLevel⟩

end MarkdownToAdf.Config
