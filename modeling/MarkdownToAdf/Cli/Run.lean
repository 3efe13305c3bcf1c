import MarkdownToAdf.Cli.CommandLine
import MarkdownToAdf.Cli.Extras
import MarkdownToAdf.Config.Loader
import MarkdownToAdf.Conversion.Block
import MarkdownToAdf.Format.Registry
import MarkdownToAdf.Source.OfMarkdown

set_option autoImplicit false

/-!
# Runs of the program

A run reads Markdown from a file or the standard input, converts it and delivers the text of the
document to a file or the standard output. It is all or nothing: where a step fails, nothing is
delivered.
-/
namespace MarkdownToAdf.Cli
open Files Format Text

inductive Failure where
  | config (e : Config.ConfigError)
  | unknownFormat (name : String)
  | reading (label : String) (e : FileError)
  | writing (e : FormatError)
  | storing (path : String) (e : FileError)
  deriving DecidableEq, Repr

def Failure.message : Failure → String
  | config e => "Failed to load configuration: " ++ e.message ++ "\n"
  | unknownFormat name =>
    "Error: " ++ (FormatError.unknownFormat name).message
      ++ "\nUse --list-formats to see the available formats\n"
  | reading label e => "Error reading " ++ label ++ ": " ++ e.message ++ "\n"
  | writing e => "Serialization error: " ++ e.message ++ "\n"
  | storing path e => "Error writing file '" ++ path ++ "': " ++ e.message ++ "\n"

structure Outcome (here : Place := []) where
  code : Nat
  stdout : String
  stderr : String
  directory : Directory here
  deriving Repr

/-- How the tables of a run's configuration are visited: those of the defaults and of its file. -/
structure Visits where
  defaults : Config.Visit := .asWritten
  file : Config.Visit := .asWritten

/-- The format that is asked for, else the one that the output file's extension stands for, else
the configured one. -/
def resolveFormat (r : Registry) (asked output : Option String) (configured : String) : String :=
  asked.getD ((output.bind r.detect?).getD configured)

/-- The parameters of a format. Only JSON is told whether to be pretty, and extra parameters win. -/
def formatOptions (format : String) (pretty compact : Bool) (extras : Parameters) : Parameters :=
  overlay extras (if format = "json" then [("pretty", toString (pretty && !compact))] else [])

/-- No input file and a dash both stand for the standard input. -/
def inputFile? : Option String → Option String
  | none => none
  | some path => if path = "-" then none else some path

def inputLabel (input : Option String) : String :=
  (inputFile? input).getD "stdin"

section
variable {here : Place}

def readInput (d : Directory here) (stdin : List UInt8) (input : Option String) :
    Except FileError String :=
  match inputFile? input with
  | some path => d.readText path
  | none => match decodeText? stdin with
    | some text => .ok text
    | none => .error .invalidText

def projectFile : String := "md2adf.toml"

def loader (c : CommandLine) (visits : Visits) : Config.Loader :=
  match c.config with
  | some path => (Config.Loader.start visits.defaults).withFile path visits.file
  | none => (Config.Loader.start visits.defaults).withOptionalFile projectFile visits.file

def endLine (text : String) : String :=
  if text.toList.getLast? = some '\n' then text else text ++ "\n"

def failing {ε α : Type} (cause : ε → Failure) : Except ε α → Except Failure α
  | .ok a => .ok a
  | .error e => .error (cause e)

def convert (settings : Config.Settings) (c : CommandLine) (extras : Parameters)
    (stdin : List UInt8) (d : Directory here) : Except Failure String := do
  let format := resolveFormat .builtIn c.format c.output settings.format
  if !Registry.builtIn.has format then throw (.unknownFormat format)
  let text ← failing (.reading (inputLabel c.input)) (readInput d stdin c.input)
  let document := Source.document (Source.ofMarkdown settings.extensions text)
  let options := formatOptions format settings.pretty c.compact extras
  let written ← failing .writing (Registry.builtIn.writeWith format options document)
  return endLine written

/-- Delivers a text. The standard output is taken to be open and to hold all that is printed. -/
def deliver (text : String) (output : Option String) (d : Directory here) :
    Except Failure (Outcome here) :=
  match output with
  | none => .ok ⟨0, text, "", d⟩
  | some path =>
    (failing (.storing path) (d.write path (bytesOf text.toList))).map fun d => ⟨0, "", "", d⟩

def padTo (width : Nat) (s : String) : String :=
  s ++ String.ofList (List.replicate (width - s.length) ' ')

def formatRow (name : String) (f : OutputFormat) : String :=
  "  " ++ padTo 10 name ++ " " ++ f.description ++ " (." ++ ", .".intercalate f.extensions ++ ")\n"

def formatList (r : Registry) : String :=
  "Available formats:\n\n"
    ++ String.join (r.names.filterMap fun name => (r.get? name).map (formatRow name))

def runCommand (c : CommandLine) (extras : Parameters) (stdin : List UInt8) (d : Directory here)
    (visits : Visits) : Except Failure (Outcome here) := do
  let settings ← failing .config ((loader c visits).load d)
  if c.listFormats then return ⟨0, formatList .builtIn, "", d⟩
  deliver (← convert settings c extras stdin d) c.output d

def usage : String :=
  "Usage: md2adf [OPTIONS] [input]\n"

def helpText : String :=
  "Convert Markdown to Atlassian Document Format (ADF)\n\n" ++ usage

def versionText : String :=
  "md2adf 0.1.0\n"

/-- Runs the program on its arguments, the bytes of the standard input and a directory. -/
def run (args : List String) (stdin : List UInt8) (d : Directory here) (visits : Visits := {}) :
    Outcome here :=
  match Request.ofArguments (keptArguments args) with
  | .help => ⟨0, helpText, "", d⟩
  | .version => ⟨0, versionText, "", d⟩
  | .wrongUsage => ⟨2, "", usage, d⟩
  | .run c =>
    match runCommand c (extraParameters args) stdin d visits with
    | .ok outcome => outcome
    | .error failure => ⟨1, "", failure.message, d⟩

end

end MarkdownToAdf.Cli
