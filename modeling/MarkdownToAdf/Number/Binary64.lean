set_option autoImplicit false

/-!
# Binary floating-point numbers

Numbers of 64 bits by their exact values. A decimal is read as the nearest of them, and each is
written in full with the fewest digits that are read as the same number.
-/
namespace MarkdownToAdf.Number

/-- A finite number is its mantissa times two to the power of its exponent. -/
inductive Binary64 where
  | finite (negative : Bool) (mantissa : Nat) (exponent : Int)
  | infinite (negative : Bool)
  | nan
  deriving DecidableEq, Repr, Inhabited

/-- The quotient to the nearest whole number; a half goes to the even one. -/
def roundDiv (n d : Nat) : Nat :=
  let q := n / d
  let r := n % d
  if 2 * r < d then q
  else if d < 2 * r then q + 1
  else if q % 2 = 0 then q
  else q + 1

def power (base : Nat) (e : Int) : Nat × Nat :=
  if 0 ≤ e then (Nat.pow base e.toNat, 1) else (1, Nat.pow base (-e).toNat)

namespace Binary64

def mantissaLimit : Nat := Nat.pow 2 53

def minExponent : Int := -1074

def maxExponent : Int := 971

def exponentFor (n d : Nat) : Int :=
  let e : Int := (n.log2 : Int) - d.log2 - 53
  let (a, b) := power 2 e
  let e := if n * b / (d * a) < mantissaLimit then e else e + 1
  max e minExponent

def ofQuotient (negative : Bool) (n d : Nat) : Binary64 :=
  if n = 0 then .finite negative 0 minExponent
  else
    let e := exponentFor n d
    let (a, b) := power 2 e
    let m := roundDiv (n * b) (d * a)
    let (m, e) := if m = mantissaLimit then (m / 2, e + 1) else (m, e)
    if maxExponent < e then .infinite negative else .finite negative m e

/-- The number nearest to `digits` times ten to the power of `e`. Beyond the greatest and below
the smallest numbers there is no need to compute the quotient. -/
def ofDecimal (negative : Bool) (digits : Nat) (e : Int) : Binary64 :=
  let magnitude : Int := (Nat.toDigits 10 digits).length + e
  if digits = 0 ∨ magnitude < -400 then .finite negative 0 minExponent
  else if 400 < magnitude then .infinite negative
  else
    let (a, b) := power 10 e
    ofQuotient negative (digits * a) b

def isZero : Binary64 → Bool
  | finite _ m _ => m == 0
  | _ => false

/-- The quarters of a mantissa's unit that bound the numbers read as it. Below a power of two
the next number is only half as far away. -/
def bounds (m : Nat) (e : Int) : Nat × Nat :=
  (if 2 * m = mantissaLimit ∧ minExponent < e then 4 * m - 1 else 4 * m - 2, 4 * m + 2)

/-- The multiple of ten to the power of `k` that is read as `m * 2 ^ e`, if there is one. Of two
the nearer is taken, and the greater if they are equally near. -/
def onGrid? (m : Nat) (e k : Int) : Option Nat :=
  let (a, b) := power 2 (e - 2)
  let (c, d) := power 10 k
  let unit := b * c
  let value := 4 * m * a * d
  let low := (bounds m e).1 * a * d
  let high := (bounds m e).2 * a * d
  let reads (n : Nat) : Bool :=
    if m % 2 = 0 then low ≤ n * unit && n * unit ≤ high
    else low < n * unit && n * unit < high
  let n := value / unit
  if reads n && (!reads (n + 1) || value - n * unit < (n + 1) * unit - value) then some n
  else if reads (n + 1) then some (n + 1)
  else none

def shortest (m : Nat) (e : Int) : Nat × Int :=
  let top := (e + 53) * 30103 / 100000 + 2
  ((List.range 40).findSome? fun (i : Nat) =>
    (onGrid? m e (top - i)).map fun n => (n, top - i)).getD (m, e)

def plainDecimal (n : Nat) (k : Int) : List Char :=
  if 0 ≤ k then Nat.toDigits 10 (n * Nat.pow 10 k.toNat)
  else
    let places := (-k).toNat
    let digits := Nat.toDigits 10 n
    let digits := List.replicate (places + 1 - digits.length) '0' ++ digits
    digits.take (digits.length - places) ++ '.' :: digits.drop (digits.length - places)

def signed (negative : Bool) (digits : List Char) : String :=
  String.ofList (if negative then '-' :: digits else digits)

def text : Binary64 → String
  | nan => "NaN"
  | infinite negative => signed negative ['i', 'n', 'f']
  | finite negative m e =>
    signed negative (if m = 0 then ['0'] else plainDecimal (shortest m e).1 (shortest m e).2)

def pointedText (x : Binary64) : String :=
  match x with
  | finite _ _ _ => if x.text.toList.contains '.' then x.text else x.text ++ ".0"
  | _ => x.text

end Binary64

end MarkdownToAdf.Number
