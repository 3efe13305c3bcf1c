import MarkdownToAdf.Association
import MarkdownToAdf.Number.Binary64

set_option autoImplicit false

/-!
# TOML trees

The values of TOML, and the rules by which a document grows: a key is defined only once, and
what a table may still be given depends on how it came to be.
-/
namespace MarkdownToAdf
open Number

namespace Toml

inductive TableKind where
  | header
  /-- The header of a table below needs it. -/
  | implied
  | dotted
  /-- It was written between braces, and nothing can be added to it. -/
  | closed
  deriving DecidableEq, Repr, Inhabited

end Toml

inductive Toml where
  | string (s : String)
  | integer (n : Int)
  | float (x : Binary64)
  | boolean (b : Bool)
  | moment (s : String)
  | array (items : List Toml)
  | table (kind : Toml.TableKind) (entries : List (String × Toml))
  /-- The tables of an array of tables, latest first. -/
  | tables (elements : List Toml)
  deriving Repr, Inhabited

namespace Toml

abbrev Entries := List (String × Toml)

/-- Changes the entries of the table at the end of a path of headers. Tables on the way that do
not exist are made, and of an array of tables the latest is meant. -/
def changeAt (change : Entries → Option Entries) : List String → Entries → Option Entries
  | [], es => change es
  | k :: path, es =>
    match es.lookup k with
    | none => (changeAt change path []).map fun inner => put k (.table .implied inner) es
    | some (.table .closed _) => none
    | some (.table kind inner) =>
      (changeAt change path inner).map fun inner => put k (.table kind inner) es
    | some (.tables (.table kind inner :: earlier)) =>
      (changeAt change path inner).map fun inner =>
        put k (.tables (.table kind inner :: earlier)) es
    | some _ => none

/-- Begins a table. Only a table that was implied may be begun when it exists. -/
def beginTable (key : String) (es : Entries) : Option Entries :=
  match es.lookup key with
  | none => some (put key (.table .header []) es)
  | some (.table .implied inner) => some (put key (.table .header inner) es)
  | some _ => none

def beginElement (key : String) (es : Entries) : Option Entries :=
  match es.lookup key with
  | none => some (put key (.tables [.table .header []]) es)
  | some (.tables elements) => some (put key (.tables (.table .header [] :: elements)) es)
  | some _ => none

def define (v : Toml) : List String → String → Entries → Option Entries
  | [], key, es => if (es.lookup key).isSome then none else some (es ++ [(key, v)])
  | k :: path, key, es =>
    match es.lookup k with
    | none => (define v path key []).map fun inner => put k (.table .dotted inner) es
    | some (.table .dotted inner) =>
      (define v path key inner).map fun inner => put k (.table .dotted inner) es
    | some (.table .implied inner) =>
      if path.isEmpty then none
      else (define v path key inner).map fun inner => put k (.table .implied inner) es
    | some (.tables (.table kind inner :: earlier)) =>
      if path.isEmpty then none
      else (define v path key inner).map fun inner =>
        put k (.tables (.table kind inner :: earlier)) es
    | some _ => none

end Toml

end MarkdownToAdf
