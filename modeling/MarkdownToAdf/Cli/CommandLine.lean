set_option autoImplicit false

/-!
# The command line

What the arguments ask for. Options with values are written as `--to json`, `--to=json`,
`-t json`, `-tjson` or `-t=json`; short flags may be joined. Nothing may be given twice, and
behind `--` no argument is an option.
-/
namespace MarkdownToAdf.Cli

structure CommandLine where
  input : Option String := none
  format : Option String := none
  output : Option String := none
  config : Option String := none
  compact : Bool := false
  verbose : Bool := false
  listFormats : Bool := false
  deriving DecidableEq, Repr

inductive Request where
  | run (c : CommandLine)
  | help
  | version
  | wrongUsage
  deriving DecidableEq, Repr

inductive Setting where
  | input
  | format
  | output
  | config
  deriving DecidableEq, Repr

inductive Flag where
  | compact
  | verbose
  | listFormats
  | help
  | version
  deriving DecidableEq, Repr

inductive Switch where
  | flag (f : Flag)
  | setting (s : Setting)
  deriving DecidableEq, Repr

def longSwitch? (name : String) : Option Switch :=
  match name with
  | "to" => some (.setting .format)
  | "output" => some (.setting .output)
  | "config" => some (.setting .config)
  | "compact" => some (.flag .compact)
  | "verbose" => some (.flag .verbose)
  | "list-formats" => some (.flag .listFormats)
  | "help" => some (.flag .help)
  | "version" => some (.flag .version)
  | _ => none

def shortSwitch? (c : Char) : Option Switch :=
  match c with
  | 't' => some (.setting .format)
  | 'o' => some (.setting .output)
  | 'v' => some (.flag .verbose)
  | 'h' => some (.flag .help)
  | 'V' => some (.flag .version)
  | _ => none

namespace CommandLine

def set (s : Setting) (value : String) (c : CommandLine) : Except Request CommandLine :=
  match s with
  | .input => if c.input.isSome then .error .wrongUsage else .ok { c with input := some value }
  | .format => if c.format.isSome then .error .wrongUsage else .ok { c with format := some value }
  | .output => if c.output.isSome then .error .wrongUsage else .ok { c with output := some value }
  | .config => if c.config.isSome then .error .wrongUsage else .ok { c with config := some value }

/-- A flag may be given once. Help and the version are answered at once. -/
def raise (f : Flag) (c : CommandLine) : Except Request CommandLine :=
  match f with
  | .compact => if c.compact then .error .wrongUsage else .ok { c with compact := true }
  | .verbose => if c.verbose then .error .wrongUsage else .ok { c with verbose := true }
  | .listFormats =>
    if c.listFormats then .error .wrongUsage else .ok { c with listFormats := true }
  | .help => .error .help
  | .version => .error .version

/-- What has been read, and the setting whose value must come next. -/
abbrev Progress := CommandLine × Option Setting

def readLong (name : String) (value : Option String) (c : CommandLine) :
    Except Request Progress :=
  match longSwitch? name, value with
  | some (.setting s), some v => (c.set s v).map fun c => (c, none)
  | some (.setting s), none => .ok (c, some s)
  | some (.flag f), none => (c.raise f).map fun c => (c, none)
  | _, _ => .error .wrongUsage

/-- Reads short options that are joined. What follows a setting is its value. -/
def readShort : List Char → CommandLine → Except Request Progress
  | [], c => .ok (c, none)
  | o :: r, c =>
    match shortSwitch? o with
    | some (.flag f) => (c.raise f).bind (readShort r)
    | some (.setting s) =>
      match r with
      | [] => .ok (c, some s)
      | '=' :: value => (c.set s (String.ofList value)).map fun c => (c, none)
      | value => (c.set s (String.ofList value)).map fun c => (c, none)
    | none => .error .wrongUsage

def readPlain (arg : String) (waiting : Option Setting) (c : CommandLine) :
    Except Request Progress :=
  (c.set (waiting.getD .input) arg).map fun c => (c, none)

/-- Reads an argument. No option is the value of another one. -/
def readArgument (arg : String) : Progress → Except Request Progress
  | (c, waiting) =>
    match arg.toList with
    | '-' :: '-' :: r =>
      if waiting.isSome then .error .wrongUsage
      else
        let name := String.ofList (r.takeWhile (· != '='))
        match r.dropWhile (· != '=') with
        | _ :: value => c.readLong name (some (String.ofList value))
        | [] => c.readLong name none
    | '-' :: o :: r => if waiting.isSome then .error .wrongUsage else readShort (o :: r) c
    | _ => c.readPlain arg waiting

/-- Reads arguments up to the end or to `--`, behind which all stand for themselves. -/
def readAll : Progress → List String → Except Request CommandLine
  | (c, none), [] => .ok c
  | (_, some _), [] => .error .wrongUsage
  | (c, waiting), arg :: r =>
    if arg = "--" then
      if waiting.isSome then .error .wrongUsage else r.foldlM (fun c a => c.set .input a) c
    else (readArgument arg (c, waiting)).bind fun p => readAll p r

end CommandLine

def Request.ofArguments (args : List String) : Request :=
  match CommandLine.readAll ({}, none) args with
  | .ok c => .run c
  | .error r => r

end MarkdownToAdf.Cli
