import MarkdownToAdf.Text.Ascii

set_option autoImplicit false

/-!
# TOML dates and times

A date, a time of day, or a date with a time and perhaps an offset. Each is kept as its usual
spelling: a capital T between date and time, and a fraction without zeros at its end.
-/
namespace MarkdownToAdf.Toml
open Text

def number? (n : Nat) (s : List Char) : Option (Nat × List Char) :=
  let digits := s.take n
  if digits.length = n ∧ digits.all Char.isDigit then
    some (digits.foldl (fun v d => 10 * v + hexValue d) 0, s.drop n)
  else none

def pair? (low high : Nat) (s : List Char) : Option (Nat × List Char) :=
  (number? 2 s).filter fun (n, _) => low ≤ n && n ≤ high

def behind? (c : Char) : List Char → Option (List Char)
  | d :: r => if d = c then some r else none
  | [] => none

def isLeapYear (year : Nat) : Bool :=
  year % 4 == 0 && (year % 100 != 0 || year % 400 == 0)

def daysIn (year month : Nat) : Nat :=
  if month = 2 then (if isLeapYear year then 29 else 28)
  else if [4, 6, 9, 11].contains month then 30
  else 31

/-- What a reader of moments answers with: the spelling and what is left behind it. -/
abbrev Spelled := List Char × List Char

def spelling (s rest : List Char) : List Char :=
  s.take (s.length - rest.length)

def date? (s : List Char) : Option Spelled := do
  let (year, r) ← number? 4 s
  let r ← behind? '-' r
  let (month, r) ← pair? 1 12 r
  let r ← behind? '-' r
  let (_, r) ← pair? 1 (daysIn year month) r
  return (spelling s r, r)

/-- A fraction of a second. Nine digits count. -/
def fractionOfSecond (s : List Char) : Spelled :=
  match s with
  | '.' :: r =>
    let digits := r.takeWhile Char.isDigit
    let shown := ((digits.take 9).reverse.dropWhile (· == '0')).reverse
    if digits.isEmpty then ([], s)
    else (if shown.isEmpty then [] else '.' :: shown, r.dropWhile Char.isDigit)
  | _ => ([], s)

def time? (s : List Char) : Option Spelled := do
  let (_, r) ← pair? 0 23 s
  let r ← behind? ':' r
  let (_, r) ← pair? 0 59 r
  let r ← behind? ':' r
  let (_, r) ← pair? 0 60 r
  let (fraction, rest) := fractionOfSecond r
  return (spelling s r ++ fraction, rest)

def hoursAndMinutes? (s : List Char) : Option Spelled := do
  let (_, r) ← pair? 0 23 s
  let r ← behind? ':' r
  let (_, r) ← pair? 0 59 r
  return (spelling s r, r)

def offset? : List Char → Option Spelled
  | c :: r =>
    if c = 'Z' ∨ c = 'z' then some (['Z'], r)
    else if c = '+' ∨ c = '-' then
      (hoursAndMinutes? r).map fun (text, rest) =>
        (if text.all fun d => d == '0' || d == ':' then '+' :: text else c :: text, rest)
    else none
  | [] => none

def timeBehind? : List Char → Option Spelled
  | c :: r =>
    if c = 'T' ∨ c = 't' ∨ c = ' ' then do
      let (time, r) ← time? r
      let (offset, r) := (offset? r).getD ([], r)
      return ('T' :: time ++ offset, r)
    else none
  | [] => none

def moment? (s : List Char) : Option Spelled :=
  match date? s with
  | some (date, r) =>
    let (time, rest) := (timeBehind? r).getD ([], r)
    some (date ++ time, rest)
  | none => time? s

end MarkdownToAdf.Toml
