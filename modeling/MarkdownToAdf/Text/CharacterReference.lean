import MarkdownToAdf.Text.Ascii
import MarkdownToAdf.Text.NamedReference

set_option autoImplicit false

/-!
# Character references and backslash escapes

`&name;`, `&#35;` and `&#x22;` stand for characters, and a backslash takes the meaning away
from the punctuation behind it.
-/
namespace MarkdownToAdf.Text

/-- What stands behind an ampersand, read as a reference: the text it stands for and the
number of characters it takes, the semicolon included. -/
abbrev ReadReference := Option (List Char × Nat)

/-- Numbers without a character, and zero, stand for the replacement character. -/
def characterOf (n : Nat) : Char :=
  if n = 0 ∨ (0xD800 ≤ n ∧ n ≤ 0xE000) ∨ 0x110000 ≤ n then '\ufffd' else Char.ofNat n

def numberOf (base : Nat) (digits : List Char) : Nat :=
  digits.foldl (fun n d => n * base + hexValue d) 0

def numericReference? (base most skipped : Nat) (isDigit : Char → Bool) (text : List Char) :
    ReadReference :=
  let digits := text.takeWhile isDigit
  if 1 ≤ digits.length ∧ digits.length ≤ most ∧ (text.dropWhile isDigit).head? = some ';' then
    some ([characterOf (numberOf base digits)], skipped + digits.length + 1)
  else none

def namedReference? (text : List Char) : ReadReference :=
  let name := text.takeWhile Char.isAlphanum
  match text.dropWhile Char.isAlphanum, name with
  | ';' :: _, initial :: _ =>
    ((referencesFrom initial).lookup (String.ofList name)).map
      fun value => (value.toList, name.length + 1)
  | _, _ => none

def reference? : List Char → ReadReference
  | '#' :: 'x' :: r => numericReference? 16 6 2 isHexDigit r
  | '#' :: 'X' :: r => numericReference? 16 6 2 isHexDigit r
  | '#' :: r => numericReference? 10 7 1 Char.isDigit r
  | r => namedReference? r

def decodeFrom : Nat → List Char → List Char
  | _, [] => []
  | skip + 1, _ :: r => decodeFrom skip r
  | 0, c :: r =>
    if c = '&' then
      match reference? r with
      | some (text, taken) => text ++ decodeFrom taken r
      | none => '&' :: decodeFrom 0 r
    else c :: decodeFrom 0 r

def decodeReferences (text : List Char) : List Char :=
  decodeFrom 0 text

def unescape : List Char → List Char
  | '\\' :: c :: r => if isAsciiPunct c then c :: unescape r else '\\' :: unescape (c :: r)
  | c :: r => c :: unescape r
  | [] => []

/-- References first, escapes second: an escaped ampersand still begins a reference. -/
def decode (text : List Char) : List Char :=
  unescape (decodeReferences text)

end MarkdownToAdf.Text
