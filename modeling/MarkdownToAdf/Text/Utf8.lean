set_option autoImplicit false

/-!
# UTF-8

The bytes of a text, and the text of bytes. Bytes that are no part of a character are read in
pieces: each piece is as long as it could still have become a character.
-/
namespace MarkdownToAdf.Text

def bytesOf (text : List Char) : List UInt8 :=
  text.flatMap String.utf8EncodeChar

/-- A character of which some bytes have been read: its number so far, the bounds of its next
byte, and how many more bytes follow that one. -/
structure OpenCharacter where
  value : Nat
  low : Nat
  high : Nat
  more : Nat
  deriving Repr

/-- What the first byte of a character begins, if it is one: no byte sequence is longer than
needed, stands for half of a surrogate pair or goes beyond the last code point. -/
def lead? (b : Nat) : Option OpenCharacter :=
  if 0xC2 ≤ b ∧ b ≤ 0xDF then some ⟨b - 0xC0, 0x80, 0xBF, 0⟩
  else if b = 0xE0 then some ⟨0, 0xA0, 0xBF, 1⟩
  else if b = 0xED then some ⟨0xD, 0x80, 0x9F, 1⟩
  else if 0xE1 ≤ b ∧ b ≤ 0xEF then some ⟨b - 0xE0, 0x80, 0xBF, 1⟩
  else if b = 0xF0 then some ⟨0, 0x90, 0xBF, 2⟩
  else if 0xF1 ≤ b ∧ b ≤ 0xF3 then some ⟨b - 0xF0, 0x80, 0xBF, 2⟩
  else if b = 0xF4 then some ⟨4, 0x80, 0x8F, 2⟩
  else none

def readFirst (b : Nat) : List (Option Char) × Option OpenCharacter :=
  if b < 0x80 then ([some (Char.ofNat b)], none)
  else match lead? b with
    | some o => ([], some o)
    | none => ([none], none)

/-- Reads a byte. A byte that does not go on with an open character ends it as no character. -/
def readByte (o? : Option OpenCharacter) (b : Nat) : List (Option Char) × Option OpenCharacter :=
  match o? with
  | none => readFirst b
  | some o =>
    if o.low ≤ b ∧ b ≤ o.high then
      let value := 64 * o.value + (b - 0x80)
      match o.more with
      | 0 => ([some (Char.ofNat value)], none)
      | more + 1 => ([], some ⟨value, 0x80, 0xBF, more⟩)
    else
      let (found, o?) := readFirst b
      (none :: found, o?)

def charactersFrom : Option OpenCharacter → List UInt8 → List (Option Char)
  | none, [] => []
  | some _, [] => [none]
  | o?, b :: r =>
    let (found, o?) := readByte o? b.toNat
    found ++ charactersFrom o? r

def decodeText? (bytes : List UInt8) : Option String :=
  ((charactersFrom none bytes).mapM id).map String.ofList

/-- The text of bytes, with a replacement character for each piece that is none. -/
def decodeLossy (bytes : List UInt8) : String :=
  String.ofList ((charactersFrom none bytes).map (·.getD '\uFFFD'))

end MarkdownToAdf.Text
