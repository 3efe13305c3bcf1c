import MarkdownToAdf.Json.Value
import MarkdownToAdf.Text.Ascii

set_option autoImplicit false

/-!
# Reading JSON text

Values are read back from their text. White space may stand around every part of a value. A
reader answers with what it read and what is left of the text.
-/
namespace MarkdownToAdf.Json
open Text

def isSpace (c : Char) : Bool :=
  c == ' ' || c == '\n' || c == '\t' || c == '\r'

def skipSpace (text : List Char) : List Char :=
  text.dropWhile isSpace

/-- The character with a code of four hexadecimal digits. Half of a surrogate pair is none. -/
def characterOfCode? (digits : List Char) : Option Char :=
  let code := digits.foldl (fun n d => 16 * n + hexValue d) 0
  if digits.all isHexDigit ∧ code.isValidChar then some (Char.ofNat code) else none

def escaped? : Char → Option Char
  | '\x22' => some '\x22'
  | '\\' => some '\\'
  | '/' => some '/'
  | 'n' => some '\n'
  | 't' => some '\t'
  | 'r' => some '\r'
  | 'b' => some '\x08'
  | 'f' => some '\x0c'
  | _ => none

def stringRest? : List Char → Option (List Char × List Char)
  | [] => none
  | '\\' :: 'u' :: a :: b :: c :: d :: r =>
    (characterOfCode? [a, b, c, d]).bind fun x =>
      (stringRest? r).map fun (s, rest) => (x :: s, rest)
  | '\\' :: e :: r =>
    (escaped? e).bind fun x => (stringRest? r).map fun (s, rest) => (x :: s, rest)
  | c :: r =>
    if c = '\x22' then some ([], r)
    else if c = '\\' ∨ c.toNat < 32 then none
    else (stringRest? r).map fun (s, rest) => (c :: s, rest)

def natural? (text : List Char) : Option (Nat × List Char) :=
  let digits := text.takeWhile Char.isDigit
  if digits.isEmpty then none
  else some (Nat.ofDigitChars 10 digits 0, text.dropWhile Char.isDigit)

def memberName? (text : List Char) : Option (String × List Char) :=
  match skipSpace text with
  | '\x22' :: r => (stringRest? r).bind fun (name, r) =>
    match skipSpace r with
    | ':' :: rest => some (String.ofList name, rest)
    | _ => none
  | _ => none

mutual

def value? : Nat → List Char → Option (Json × List Char)
  | 0, _ => none
  | fuel + 1, text =>
    match skipSpace text with
    | '\x22' :: r => (stringRest? r).map fun (s, rest) => (string (String.ofList s), rest)
    | '[' :: r =>
      match skipSpace r with
      | ']' :: rest => some (array [], rest)
      | _ => (items? fuel r).map fun (items, rest) => (array items, rest)
    | '\x7b' :: r =>
      match skipSpace r with
      | '\x7d' :: rest => some (object [], rest)
      | _ => (members? fuel r).map fun (members, rest) => (object members, rest)
    | 't' :: 'r' :: 'u' :: 'e' :: rest => some (bool true, rest)
    | 'f' :: 'a' :: 'l' :: 's' :: 'e' :: rest => some (bool false, rest)
    | r => (natural? r).map fun (n, rest) => (number n, rest)

def items? : Nat → List Char → Option (List Json × List Char)
  | 0, _ => none
  | fuel + 1, text =>
    (value? fuel text).bind fun (v, r) =>
      match skipSpace r with
      | ',' :: r => (items? fuel r).map fun (items, rest) => (v :: items, rest)
      | ']' :: rest => some ([v], rest)
      | _ => none

def members? : Nat → List Char → Option (List (String × Json) × List Char)
  | 0, _ => none
  | fuel + 1, text =>
    (memberName? text).bind fun (name, r) =>
      (value? fuel r).bind fun (v, r) =>
        match skipSpace r with
        | ',' :: r => (members? fuel r).map fun (members, rest) => ((name, v) :: members, rest)
        | '\x7d' :: rest => some ([(name, v)], rest)
        | _ => none

end

/-- The value that a text holds. Every value takes at least one character, so the length of the
text is enough. -/
def read? (text : String) : Option Json :=
  (value? text.length text.toList).bind fun (v, rest) =>
    if (skipSpace rest).isEmpty then some v else none

end MarkdownToAdf.Json
