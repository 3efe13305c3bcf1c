set_option autoImplicit false

/-!
# ASCII classes

The classes of ASCII characters that Markdown's grammar is written in. No class holds a
character beyond ASCII.
-/
namespace MarkdownToAdf.Text

def isAsciiPunct (c : Char) : Bool :=
  let n := c.toNat
  (0x21 ≤ n && n ≤ 0x2F) || (0x3A ≤ n && n ≤ 0x40) || (0x5B ≤ n && n ≤ 0x60)
    || (0x7B ≤ n && n ≤ 0x7E)

def isAsciiSpace (c : Char) : Bool :=
  c == ' ' || (9 ≤ c.toNat && c.toNat ≤ 13)

def isSpaceOrTab (c : Char) : Bool :=
  c == ' ' || c == '\t'

def isAsciiControl (c : Char) : Bool :=
  c.toNat < 0x20 || c.toNat == 0x7F

def isHexDigit (c : Char) : Bool :=
  c.isDigit || ('a' ≤ c && c ≤ 'f') || ('A' ≤ c && c ≤ 'F')

def hexValue (c : Char) : Nat :=
  if c.isDigit then c.toNat - 48 else c.toLower.toNat - 87

def trimStart (text : List Char) : List Char :=
  text.dropWhile isAsciiSpace

def trimEnd (text : List Char) : List Char :=
  (text.reverse.dropWhile isAsciiSpace).reverse

def trim (text : List Char) : List Char :=
  trimEnd (trimStart text)

def sameIgnoringCase (a b : List Char) : Bool :=
  a.map Char.toLower == b.map Char.toLower

def byteLength : List Char → Nat
  | [] => 0
  | c :: r => c.utf8Size + byteLength r

theorem byteLength_append (a b : List Char) :
    byteLength (a ++ b) = byteLength a + byteLength b := by
  induction a with
  | nil => simp [byteLength]
  | cons c a ih => simp [byteLength, ih, Nat.add_assoc]

end MarkdownToAdf.Text
