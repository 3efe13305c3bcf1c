import MarkdownToAdf.Text.Hidden

set_option autoImplicit false

/-!
# Quoted text

Text in double quotes in which every character can be seen: quotes, backslashes and characters
without a glyph of their own are written as escapes.
-/
namespace MarkdownToAdf.Text

/-- A character by its number, in braces and without leading zeros. -/
def numberEscape (c : Char) : List Char :=
  ['\\', 'u', '\x7b'] ++ Nat.toDigits 16 c.toNat ++ ['\x7d']

def quoteChar (c : Char) : List Char :=
  if c = '\x22' then ['\\', '\x22']
  else if c = '\\' then ['\\', '\\']
  else if c = '\n' then ['\\', 'n']
  else if c = '\r' then ['\\', 'r']
  else if c = '\t' then ['\\', 't']
  else if c = '\x00' then ['\\', '0']
  else if isHidden c then numberEscape c
  else [c]

def quote (s : String) : String :=
  String.ofList ('\x22' :: s.toList.flatMap quoteChar ++ ['\x22'])

end MarkdownToAdf.Text
