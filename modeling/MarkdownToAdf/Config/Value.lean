import MarkdownToAdf.Association
import MarkdownToAdf.Number.Binary64
import MarkdownToAdf.Text.Lowercase
import MarkdownToAdf.Toml.Tree

set_option autoImplicit false

/-!
# Configuration values

The tree that the layers of a configuration are laid over one another in. Its keys are in small
letters. A value that was written in a file remembers the name of the file; what came to be by
laying values over one another has no origin.
-/
namespace MarkdownToAdf.Config
open Number Text

inductive Scalar where
  | nothing
  | boolean (b : Bool)
  | integer (n : Int)
  | float (x : Binary64)
  | string (s : String)
  deriving DecidableEq, Repr, Inhabited

inductive Value where
  | scalar (origin : Option String) (s : Scalar)
  | array (origin : Option String) (items : List Value)
  | table (origin : Option String) (entries : List (String × Value))
  deriving Repr, Inhabited

namespace Value

def empty : Value := .table none []

def nothing : Value := .scalar none .nothing

def entries : Value → List (String × Value)
  | table _ es => es
  | _ => []

def tableOrigin : Value → Option String
  | table origin _ => origin
  | _ => none

def get? (key : String) (v : Value) : Option Value :=
  v.entries.lookup key

/-- Gives a key a value. What is no table gives way to one. -/
def set (v : Value) (key : String) (new : Value) : Value :=
  .table v.tableOrigin (put key new v.entries)

mutual

/-- Lays a value over the one that a key has so far. A table goes into it entry by entry; all
else takes its place. -/
def overlaid (old : Option Value) : Value → Value
  | scalar origin s => scalar origin s
  | array origin items => array origin items
  | table _ es => enter (old.getD empty) es

def enter (v : Value) : List (String × Value) → Value
  | [] => v
  | (key, new) :: r =>
    let key := lowercase key
    enter (v.set key (overlaid (v.get? key) new)) r

end

mutual

/-- The value that something of TOML becomes. Dates and times are texts. -/
def ofToml (origin : Option String) : Toml → Value
  | .string s => scalar origin (.string s)
  | .integer n => scalar origin (.integer n)
  | .float x => scalar origin (.float x)
  | .boolean b => scalar origin (.boolean b)
  | .moment s => scalar origin (.string s)
  | .array items => array origin (ofItems origin items)
  | .table _ es => table origin (ofEntries origin es)
  | .tables elements => array origin (ofItems origin elements).reverse

def ofItems (origin : Option String) : List Toml → List Value
  | [] => []
  | v :: r => ofToml origin v :: ofItems origin r

def ofEntries (origin : Option String) : List (String × Toml) → List (String × Value)
  | [] => []
  | (key, v) :: r => (key, ofToml origin v) :: ofEntries origin r

end

end Value

end MarkdownToAdf.Config
