import MarkdownToAdf.Text.Ascii
import MarkdownToAdf.Toml.Tree

set_option autoImplicit false

/-!
# TOML numbers

Integers of 64 bits, in decimal with a sign or in another base with a leading letter, and
floating-point numbers. Underscores may stand between digits.
-/
namespace MarkdownToAdf.Toml
open Number Text

def moreDigits (isDigit : Char → Bool) : List Char → List Char × List Char
  | '_' :: c :: r =>
    if isDigit c then
      let (digits, rest) := moreDigits isDigit r
      (c :: digits, rest)
    else ([], '_' :: c :: r)
  | c :: r =>
    if isDigit c then
      let (digits, rest) := moreDigits isDigit r
      (c :: digits, rest)
    else ([], c :: r)
  | [] => ([], [])

def digits? (isDigit : Char → Bool) : List Char → Option (List Char × List Char)
  | c :: r =>
    if isDigit c then
      let (digits, rest) := moreDigits isDigit r
      some (c :: digits, rest)
    else none
  | [] => none

/-- The digits of a whole number in decimal: nothing follows a leading zero. -/
def whole? : List Char → Option (List Char × List Char)
  | '0' :: r => some (['0'], r)
  | s => digits? Char.isDigit s

def sign : List Char → Bool × List Char
  | '-' :: r => (true, r)
  | '+' :: r => (false, r)
  | s => (false, s)

def valueIn (base : Nat) (digits : List Char) : Nat :=
  digits.foldl (fun v d => base * v + hexValue d) 0

def inRange? (n : Int) : Option Toml :=
  if -9223372036854775808 ≤ n ∧ n ≤ 9223372036854775807 then some (.integer n) else none

def integerIn? (base : Nat) (isDigit : Char → Bool) (s : List Char) :
    Option (Toml × List Char) :=
  (digits? isDigit s).bind fun (digits, rest) =>
    (inRange? (valueIn base digits)).map fun v => (v, rest)

def decimal? (s : List Char) : Option (Toml × List Char) :=
  let (negative, s) := sign s
  (whole? s).bind fun (digits, rest) =>
    let n : Int := valueIn 10 digits
    (inRange? (if negative then -n else n)).map fun v => (v, rest)

def integer? : List Char → Option (Toml × List Char)
  | '0' :: 'x' :: r => integerIn? 16 isHexDigit r
  | '0' :: 'o' :: r => integerIn? 8 (fun c => '0' ≤ c && c ≤ '7') r
  | '0' :: 'b' :: r => integerIn? 2 (fun c => c == '0' || c == '1') r
  | s => decimal? s

def fraction? : List Char → Option (List Char × List Char)
  | '.' :: r => digits? Char.isDigit r
  | _ => none

def exponent? : List Char → Option (Int × List Char)
  | c :: r =>
    if c = 'e' ∨ c = 'E' then
      let (negative, s) := sign r
      (digits? Char.isDigit s).map fun (digits, rest) =>
        let n : Int := valueIn 10 digits
        (if negative then -n else n, rest)
    else none
  | [] => none

def special? (negative : Bool) : List Char → Option (Binary64 × List Char)
  | 'i' :: 'n' :: 'f' :: r => some (.infinite negative, r)
  | 'n' :: 'a' :: 'n' :: r => some (.nan, r)
  | _ => none

/-- A decimal with a fraction, an exponent or both. What is too great is no number, but what is
too far below zero is infinite. -/
def pointed? (negative : Bool) (s : List Char) : Option (Binary64 × List Char) :=
  (whole? s).bind fun (digits, rest) =>
    let (places, rest') := (fraction? rest).getD ([], rest)
    let (e, rest'') := (exponent? rest').getD (0, rest')
    let x := Binary64.ofDecimal negative (valueIn 10 (digits ++ places)) (e - places.length)
    if rest''.length = rest.length ∨ x = .infinite false then none else some (x, rest'')

def float? (s : List Char) : Option (Toml × List Char) :=
  let (negative, s) := sign s
  ((special? negative s).or (pointed? negative s)).map fun (x, rest) => (.float x, rest)

end MarkdownToAdf.Toml
