set_option autoImplicit false

/-!
# Errors of formats

Converting a text never fails. What can fail is finding a format, setting its parameters and
writing the document.
-/
namespace MarkdownToAdf.Format

inductive FormatError where
  | unknownFormat (name : String)
  | writing (reason : String)
  | unknownParameter (format parameter : String)
  | noParameters (format : String)
  | badValue (parameter value : String)
  deriving DecidableEq, Repr

def FormatError.message : FormatError → String
  | .unknownFormat name => "Format '" ++ name ++ "' not found"
  | .writing reason => "Serialization error: " ++ reason
  | .unknownParameter format parameter =>
    "Operation not supported: Format '" ++ format ++ "' does not support parameter '"
      ++ parameter ++ "'"
  | .noParameters format =>
    "Operation not supported: Format '" ++ format ++ "' does not support extra parameters"
  | .badValue parameter value =>
    "Invalid value '" ++ value ++ "' for option '" ++ parameter ++ "'"

end MarkdownToAdf.Format
