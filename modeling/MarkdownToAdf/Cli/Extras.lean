import MarkdownToAdf.Association
import MarkdownToAdf.Format.Parameter

set_option autoImplicit false

/-!
# Extra arguments

Arguments that are meant for the output format begin with `--extra-` or `--extras-`, followed by
the name of a parameter. The next argument is its value, unless it looks like an option.
-/
namespace MarkdownToAdf.Cli
open Format

def stripFront? : List Char → List Char → Option (List Char)
  | [], s => some s
  | p :: ps, c :: s => if p = c then stripFront? ps s else none
  | _ :: _, [] => none

def extraKey? (arg : String) : Option String :=
  ((stripFront? "--extra-".toList arg.toList).or (stripFront? "--extras-".toList arg.toList)).map
    String.ofList

def isDashed (arg : String) : Bool :=
  arg.toList.head? == some '-'

inductive Segment where
  | kept (arg : String)
  | bare (key : String)
  | pair (key value : String)
  deriving DecidableEq, Repr

def segments : List String → List Segment
  | [] => []
  | a :: r =>
    match extraKey? a with
    | none => .kept a :: segments r
    | some key =>
      match r with
      | [] => [.bare key]
      | v :: rest => if isDashed v then .bare key :: segments (v :: rest)
        else .pair key v :: segments rest

def Segment.kept? : Segment → Option String
  | kept arg => some arg
  | _ => none

/-- A parameter without a value is true. -/
def Segment.parameter? : Segment → Option (String × String)
  | kept _ => none
  | bare key => some (key, "true")
  | pair key value => some (key, value)

def keptArguments (args : List String) : List String :=
  (segments args).filterMap Segment.kept?

/-- Gives parameters values, later ones in the stead of earlier ones. -/
def overlay (ps : Parameters) (base : Parameters) : Parameters :=
  ps.foldl (fun l p => put p.1 p.2 l) base

def extraParameters (args : List String) : Parameters :=
  overlay ((segments args).filterMap Segment.parameter?) []

end MarkdownToAdf.Cli
