import MarkdownToAdf.Config.Value
import MarkdownToAdf.Text.Quoted

set_option autoImplicit false

/-!
# Errors of configurations

A file that must exist is missing or is no TOML, an override names no place, or the values in
the end are not those that the settings need.
-/
namespace MarkdownToAdf.Config
open Text

inductive Found where
  | scalar (s : Scalar)
  | sequence
  | map
  deriving DecidableEq, Repr

inductive SettingKind where
  | boolean
  | string
  deriving DecidableEq, Repr

inductive Section where
  | parser
  | output
  | logging
  deriving DecidableEq, Repr

inductive ConfigError where
  /-- A file that is needed is not there, or cannot be read. -/
  | missingFile (reason : String)
  | malformedFile (name : String)
  | malformedPlace (text : String)
  | wrongSetting (found : Found) (expected : SettingKind) (key : String) (origin : Option String)
  | wrongSection (found : Scalar) (expected : Section)
  | shortSection (length : Nat) (expected : Section)
  | missingKey (key : String)
  deriving DecidableEq, Repr

def Scalar.description : Scalar → String
  | nothing => "unit value"
  | boolean b => "boolean `" ++ toString b ++ "`"
  | integer n => "integer `" ++ toString n ++ "`"
  | float x => "floating point `" ++ x.pointedText ++ "`"
  | string s => "string " ++ quote s

def Found.description : Found → String
  | scalar s => s.description
  | sequence => "sequence"
  | map => "map"

def SettingKind.description : SettingKind → String
  | boolean => "a boolean"
  | string => "a string"

def Section.key : Section → String
  | parser => "parser"
  | output => "output"
  | logging => "logging"

def Section.description : Section → String
  | parser => "struct ParserConfig"
  | output => "struct OutputConfig"
  | logging => "struct LoggingConfig"

def Section.size : Section → String
  | parser => "3 elements"
  | output => "2 elements"
  | logging => "1 element"

def ConfigError.message : ConfigError → String
  | missingFile reason => reason
  | malformedFile name => "invalid TOML in " ++ name
  | malformedPlace text => "invalid path '" ++ text ++ "'"
  | wrongSetting found expected key origin =>
    "invalid type: " ++ found.description ++ ", expected " ++ expected.description
      ++ " for key `" ++ key ++ "`"
      ++ match origin with
        | some file => " in " ++ file
        | none => ""
  | wrongSection found expected =>
    "invalid type: " ++ found.description ++ ", expected " ++ expected.description
  | shortSection length expected =>
    "invalid length " ++ toString length ++ ", expected " ++ expected.description ++ " with "
      ++ expected.size
  | missingKey key => "missing field `" ++ key ++ "`"

end MarkdownToAdf.Config
