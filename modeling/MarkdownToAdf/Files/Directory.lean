import MarkdownToAdf.Association
import MarkdownToAdf.Files.FileName
import MarkdownToAdf.Text.Utf8

set_option autoImplicit false

/-!
# Directories

The files of a system as they are seen from a working directory. Paths are followed part by part,
so that reading and writing fail for the same reasons, and with the same words, as in a file system.
There are no links, so every place has a single way to it from the root.
-/
namespace MarkdownToAdf.Files
open Text

inductive FileError where
  | missing
  | notADirectory
  | isADirectory
  | invalidText
  | refused (reason : String)
  deriving DecidableEq, Repr

def FileError.message : FileError → String
  | missing => "No such file or directory (os error 2)"
  | notADirectory => "Not a directory (os error 20)"
  | isADirectory => "Is a directory (os error 21)"
  | invalidText => "stream did not contain valid UTF-8"
  | refused reason => reason

/-- The way to something from the root, part by part. -/
abbrev Place := List String

inductive Access where
  | read
  | write
  | search
  deriving DecidableEq, Repr

inductive Trait where
  | folder
  | refuses (access : Access) (reason : String)
  deriving DecidableEq, Repr

/-- Every file by its place, with the working directory that relative paths begin at. -/
structure Directory (here : Place := []) where
  files : List (Place × List UInt8)
  traits : List (Place × Trait) := []
  deriving Repr

inductive Entry where
  | file (bytes : List UInt8)
  | folder
  deriving Repr

/-- The parts of a path; parts that are empty or a single dot lead nowhere. -/
def parts (path : String) : Place :=
  ((splitAtSlashes path.toList).filter fun p => p != [] && p != ['.']).map String.ofList

def isAbsolute (path : String) : Bool :=
  path.toList.head? == some '/'

def Place.path (place : Place) : String :=
  "/" ++ "/".intercalate place

def absolute (here : Place) (path : String) : String :=
  if isAbsolute path then path else "/" ++ String.join (here.map (· ++ "/")) ++ path

/-- The way to a place from a folder: back to where their ways part, and on from there. -/
def wayTo : Place → Place → Place
  | f :: folder, p :: place =>
    if f = p then wayTo folder place else (f :: folder).map (fun _ => "..") ++ p :: place
  | folder, place => folder.map (fun _ => "..") ++ place

/-- The last part of a path, which says if it must lead to a directory: it does if that part is
empty or a single dot. -/
def lastPart (path : String) : List Char :=
  ((splitAtSlashes path.toList).getLast?).getD []

def Trait.refusal? (access : Access) : Trait → Option String
  | folder => none
  | refuses refused reason => if refused = access then some reason else none

namespace Directory
variable {here : Place}

/-- What is at a place. Everything on the way to a file, a folder or the working directory is a
folder. -/
def entry? (d : Directory here) (place : Place) : Option Entry :=
  match d.files.lookup place with
  | some bytes => some (.file bytes)
  | none =>
    if place.isPrefixOf here || d.traits.any (fun t => t.2 = .folder && place.isPrefixOf t.1)
        || d.files.any fun f => place.isPrefixOf f.1 then
      some .folder
    else none

def refusal? (d : Directory here) (access : Access) (place : Place) : Option String :=
  d.traits.findSome? fun t => if t.1 = place then t.2.refusal? access else none

def permit (d : Directory here) (access : Access) (place : Place) : Except FileError Unit :=
  match d.refusal? access place with
  | some reason => .error (.refused reason)
  | none => .ok ()

/-- Walks on from a folder. Two dots lead back, and from the root to the root. -/
def walk (d : Directory here) : Place → Place → Except FileError Place
  | place, [] => .ok place
  | place, p :: rest =>
    match d.entry? place with
    | some .folder => do
      d.permit .search place
      d.walk (if p = ".." then place.dropLast else place ++ [p]) rest
    | some (.file _) => .error .notADirectory
    | none => .error .missing

def resolve (d : Directory here) (path : String) : Except FileError Place :=
  if path = "" then .error .missing
  else d.walk (if isAbsolute path then [] else here) (parts path)

def isFile (d : Directory here) (path : String) : Bool :=
  match (d.resolve path).toOption.bind d.entry? with
  | some (.file _) => lastPart path != [] && lastPart path != ['.']
  | _ => false

def read (d : Directory here) (path : String) : Except FileError (List UInt8) := do
  let place ← d.resolve path
  match d.entry? place with
  | some (.file bytes) =>
    if lastPart path = [] ∨ lastPart path = ['.'] then throw .notADirectory
    else (d.permit .read place).map fun _ => bytes
  | some .folder => d.permit .read place; throw .isADirectory
  | none => throw .missing

def readText (d : Directory here) (path : String) : Except FileError String := do
  match decodeText? (← d.read path) with
  | some text => return text
  | none => throw .invalidText

/-- Writing a new file is also writing into its folder. -/
def permitWrite (d : Directory here) (place : Place) : Except FileError Unit := do
  match d.entry? place with
  | some _ => d.permit .write place
  | none => d.permit .write place.dropLast; d.permit .write place

def write (d : Directory here) (path : String) (bytes : List UInt8) :
    Except FileError (Directory here) := do
  let place ← d.resolve path
  match d.entry? place, lastPart path with
  | some .folder, _ => throw .isADirectory
  | _, [] => throw .isADirectory
  | some (.file _), ['.'] => throw .notADirectory
  | none, ['.'] => throw .missing
  | _, _ => (d.permitWrite place).map fun _ => { d with files := put place bytes d.files }

end Directory

end MarkdownToAdf.Files
