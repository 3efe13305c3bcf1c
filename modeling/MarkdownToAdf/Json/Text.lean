import MarkdownToAdf.Json.Value

set_option autoImplicit false

/-!
# JSON text

A value is written on one line without white space, or with every item and member on a line of
its own, indented by two spaces for each level. Empty arrays and objects take no lines.
-/
namespace MarkdownToAdf.Json

/-- How a value is laid out: on one line, or over lines at a level of nesting. -/
inductive Layout where
  | compact
  | indented (level : Nat)
  deriving DecidableEq, Repr

namespace Layout

def deeper : Layout → Layout
  | compact => compact
  | indented level => indented (level + 1)

def lineBreak : Layout → List Char
  | compact => []
  | indented level => '\n' :: List.replicate (2 * level) ' '

def colon : Layout → List Char
  | compact => [':']
  | indented _ => [':', ' ']

end Layout

def hexDigit (n : Nat) : Char :=
  if n < 10 then Char.ofNat (48 + n) else Char.ofNat (87 + n)

/-- Only quotes, backslashes and control characters are escaped. -/
def escape (c : Char) : List Char :=
  if c = '\x22' then ['\\', '\x22']
  else if c = '\\' then ['\\', '\\']
  else if c = '\n' then ['\\', 'n']
  else if c = '\t' then ['\\', 't']
  else if c = '\r' then ['\\', 'r']
  else if c = '\x08' then ['\\', 'b']
  else if c = '\x0c' then ['\\', 'f']
  else if c.toNat < 32 then
    ['\\', 'u', '0', '0', hexDigit (c.toNat / 16), hexDigit (c.toNat % 16)]
  else [c]

def stringChars (s : String) : List Char :=
  '\x22' :: s.toList.flatMap escape ++ ['\x22']

mutual

def chars (l : Layout) : Json → List Char
  | string s => stringChars s
  | number n => Nat.toDigits 10 n
  | bool b => if b then ['t', 'r', 'u', 'e'] else ['f', 'a', 'l', 's', 'e']
  | array items => '[' :: itemsChars l true items
  | object members => '\x7b' :: membersChars l true members

def itemsChars (l : Layout) (first : Bool) : List Json → List Char
  | [] => (if first then [] else l.lineBreak) ++ [']']
  | v :: r =>
    (if first then [] else [',']) ++ l.deeper.lineBreak ++ chars l.deeper v
      ++ itemsChars l false r

def membersChars (l : Layout) (first : Bool) : List (String × Json) → List Char
  | [] => (if first then [] else l.lineBreak) ++ ['\x7d']
  | (k, v) :: r =>
    (if first then [] else [',']) ++ l.deeper.lineBreak ++ stringChars k ++ l.colon
      ++ chars l.deeper v ++ membersChars l false r

end

def text (pretty : Bool) (v : Json) : String :=
  String.ofList (v.chars (if pretty then .indented 0 else .compact))

end MarkdownToAdf.Json
