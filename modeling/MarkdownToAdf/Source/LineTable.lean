import MarkdownToAdf.Text.Utf8

set_option autoImplicit false

/-!
# Bytes by line and column

A table of the places where lines begin finds the byte at a line and a column, both counted
from one. Only line feeds begin lines here.
-/
namespace MarkdownToAdf.Source
open Text

def startsFrom : Nat → List UInt8 → List Nat
  | _, [] => []
  | i, b :: r => if b = 10 then (i + 1) :: startsFrom (i + 1) r else startsFrom (i + 1) r

structure LineTable where
  bytes : List UInt8
  starts : List Nat
  deriving Repr

def LineTable.ofText (text : List Char) : LineTable :=
  let bytes := bytesOf text
  ⟨bytes, 0 :: startsFrom 0 bytes⟩

/-- There is no line and no column zero. -/
def LineTable.byteAt (t : LineTable) (line column : Nat) : Option UInt8 :=
  match line, column with
  | line + 1, column + 1 => (t.starts[line]?).bind fun start => t.bytes[start + column]?
  | _, _ => none

end MarkdownToAdf.Source
