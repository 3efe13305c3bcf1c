import MarkdownToAdf.Format.Error

set_option autoImplicit false

/-!
# Parameters of formats

A format is given its parameters as texts by name. Each built-in format knows one parameter,
which is a truth value.
-/
namespace MarkdownToAdf.Format

/-- Parameters by name. No name occurs twice, and the order means nothing. -/
abbrev Parameters := List (String × String)

def truth? (value : String) : Option Bool :=
  let word := String.ofList (value.toList.map Char.toLower)
  if word = "true" ∨ word = "yes" ∨ word = "1" ∨ word = "on" then some true
  else if word = "false" ∨ word = "no" ∨ word = "0" ∨ word = "off" then some false
  else none

def readTruth (parameter value : String) : Except FormatError Bool :=
  match truth? value with
  | some b => .ok b
  | none => .error (.badValue parameter value)

/-- The value of the only parameter of a format, or its default if it is not given. -/
def readSwitch (format parameter : String) : Bool → Parameters → Except FormatError Bool
  | default, [] => .ok default
  | _, (name, value) :: r =>
    if name = parameter then
      match readTruth parameter value with
      | .ok b => readSwitch format parameter b r
      | .error e => .error e
    else .error (.unknownParameter format name)

end MarkdownToAdf.Format
