import MarkdownToAdf.Adf.Json
import MarkdownToAdf.Association
import MarkdownToAdf.Files.FileName
import MarkdownToAdf.Format.Parameter
import MarkdownToAdf.Format.TreeText
import MarkdownToAdf.Json.Text

set_option autoImplicit false

/-!
# Formats and their registry

A format writes documents as text. A registry knows formats by name, at most one for each
name, and lists the names in order.
-/
namespace MarkdownToAdf.Format
open Adf Files

structure OutputFormat where
  name : String
  description : String
  /-- The extensions of the files that hold the format, without the dot. -/
  extensions : List String
  write : Document → Except FormatError String
  writeWith : Parameters → Document → Except FormatError String

def OutputFormat.plain (name description : String) (extensions : List String)
    (write : Document → Except FormatError String) : OutputFormat where
  name := name
  description := description
  extensions := extensions
  write := write
  writeWith := fun ps d => if ps.isEmpty then write d else .error (.noParameters name)

def jsonText (pretty : Bool) (d : Document) : String :=
  d.json.text pretty

def jsonFormat (pretty : Bool) : OutputFormat where
  name := "json"
  description := "Atlassian Document Format as JSON"
  extensions := ["json", "adf"]
  write := fun d => .ok (jsonText pretty d)
  writeWith := fun ps d => (readSwitch "json" "pretty" pretty ps).map fun p => jsonText p d

def treeFormat : OutputFormat where
  name := "treeviz"
  description := "Visual tree of the ADF document with Unicode icons"
  extensions := ["tree", "treeviz"]
  write := fun d => .ok (treeText true d)
  writeWith := fun ps d =>
    (readSwitch "treeviz" "show-marks" true ps).map fun showMarks => treeText showMarks d

/-- Formats by name, in no particular order. -/
structure Registry where
  entries : List (String × OutputFormat)
  nodup : (entries.map Prod.fst).Nodup

namespace Registry

def empty : Registry := ⟨[], List.nodup_nil⟩

def register (f : OutputFormat) (r : Registry) : Registry :=
  ⟨put f.name f r.entries, nodup_put f.name f r.nodup⟩

def builtIn : Registry :=
  (empty.register (jsonFormat true)).register treeFormat

def formats (r : Registry) : List OutputFormat :=
  r.entries.map Prod.snd

def names (r : Registry) : List String :=
  (r.entries.map Prod.fst).mergeSort

def get? (r : Registry) (name : String) : Option OutputFormat :=
  r.entries.lookup name

def has (r : Registry) (name : String) : Bool :=
  (r.get? name).isSome

def get (r : Registry) (name : String) : Except FormatError OutputFormat :=
  match r.get? name with
  | some f => .ok f
  | none => .error (.unknownFormat name)

/-- The name of the first format that lists the extension of a path. -/
def detect? (r : Registry) (path : String) : Option String :=
  (extension? path).bind fun e =>
    (r.formats.find? fun f => f.extensions.contains e).map OutputFormat.name

def write (r : Registry) (name : String) (d : Document) : Except FormatError String :=
  (r.get name).bind fun f => f.write d

def writeWith (r : Registry) (name : String) (ps : Parameters) (d : Document) :
    Except FormatError String :=
  (r.get name).bind fun f => f.writeWith ps d

end Registry

end MarkdownToAdf.Format
