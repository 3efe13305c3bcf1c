import MarkdownToAdf.Config.Place
import MarkdownToAdf.Config.Settings
import MarkdownToAdf.Config.Visit
import MarkdownToAdf.Files.Directory
import MarkdownToAdf.Toml.Document

set_option autoImplicit false

/-!
# Loading a configuration

A loader collects sources, of which the defaults are the first, and overrides. Loading lays the
sources over one another in the order in which they were added, and the overrides over all of them.
-/
namespace MarkdownToAdf.Config
open Files Text

def defaultLines : List String :=
  ["# Default configuration for md2adf.\n",
    "#\n",
    "# Every key here is read by the cli. User files (`md2adf.toml` in the working\n",
    "# directory, or the file passed with `--config`) only need the keys they change.\n",
    "\n",
    "[parser]\n",
    "# GFM pipe tables.\n",
    "table = true\n",
    "# `~~strikethrough~~`.\n",
    "strikethrough = true\n",
    "# Bare URLs and e-mail addresses become links.\n",
    "autolink = true\n",
    "\n",
    "[output]\n",
    "# Output format name, see `md2adf --list-formats`.\n",
    "format = \"json\"\n",
    "# Indent JSON output. `--compact` turns this off.\n",
    "pretty = true\n",
    "\n",
    "[logging]\n",
    "# Log filter used when RUST_LOG is not set (error, warn, info, debug, trace).\n",
    "level = \"warn\"\n"]

def defaultText : String :=
  String.join defaultLines

inductive Origin where
  | text (toml : String)
  | file (name : String) (required : Bool)
  deriving DecidableEq, Repr

/-- What takes part in a configuration, with the order in which its tables happen to be visited. -/
structure Source where
  origin : Origin
  visit : Visit

def Source.defaults (visit : Visit) : Source :=
  ⟨.text defaultText, visit⟩

structure Loader where
  sources : List Source := [.defaults .asWritten]
  overrides : List (Place × Scalar) := []

namespace Loader

def start (visit : Visit) : Loader :=
  { sources := [.defaults visit] }

def withFile (name : String) (l : Loader) (visit : Visit := .asWritten) : Loader :=
  { l with sources := l.sources ++ [⟨.file name true, visit⟩] }

def withOptionalFile (name : String) (l : Loader) (visit : Visit := .asWritten) : Loader :=
  { l with sources := l.sources ++ [⟨.file name false, visit⟩] }

def withOverride (place : String) (s : Scalar) (l : Loader) : Except ConfigError Loader :=
  match Place.ofText? place with
  | some place => .ok { l with overrides := put place s l.overrides }
  | none => .error (.malformedPlace place)

end Loader

/-- A path with the extension of TOML behind its last name, if it ends in a name. -/
def withToml? (path : String) : Option String :=
  (fileName? path.toList).map fun _ => Files.Place.path (parts path) ++ ".toml"

section
variable {here : Files.Place} (d : Directory here)

/-- The path of the file with a name, or else with that name and the extension of TOML. -/
def find? (name : String) : Option String :=
  let path := absolute here name
  if d.isFile path then some path else (withToml? path).filter d.isFile

/-- The bytes of a file and its name as it is seen from the working directory. -/
def contents (name : String) : Except ConfigError (String × List UInt8) :=
  match find? d name with
  | none => .error (.missingFile ("configuration file \"" ++ name ++ "\" not found"))
  | some path =>
    match d.read path with
    | .ok bytes => .ok ("/".intercalate (wayTo here (parts path)), bytes)
    | .error e => .error (.missingFile e.message)

def Source.entries (s : Source) (origin : Option String) (text : String) :
    Except ConfigError (List (String × Value)) :=
  match Toml.ofText? text with
  | none => .error (.malformedFile (origin.getD ""))
  | some es => .ok (Value.ofEntries origin (s.visit.arrange es))

/-- The entries of a source in the order in which they are visited. An optional file that cannot be
had brings none. -/
def Source.collect (s : Source) : Except ConfigError (List (String × Value)) :=
  match s.origin with
  | .text toml => s.entries none toml
  | .file name required =>
    match contents d name with
    | .ok (file, bytes) => s.entries (some file) (decodeLossy bytes)
    | .error e => if required then .error e else .ok []

def Source.lay (s : Source) (v : Value) : Except ConfigError Value :=
  (s.collect d).map v.layFile

namespace Loader

/-- Lays everything over one another. Overrides are visited in any order, too. -/
def tree (l : Loader) (order : Order (Place × Scalar)) : Except ConfigError Value := do
  let v ← l.sources.foldlM (fun v s => s.lay d v) .empty
  return (order.arrange l.overrides).foldl (fun v (place, s) => v.setPlace place (.scalar none s)) v

def load (l : Loader) (order : Order (Place × Scalar) := .asAdded) : Except ConfigError Settings := do
  Settings.read (← l.tree d order)

end Loader

end

end MarkdownToAdf.Config
