import MarkdownToAdf.Text.Ascii

set_option autoImplicit false

/-!
# TOML strings

Strings stand in double quotes, with escapes, or in single quotes, where every character stands
for itself. Three quotes begin a string that may go over several lines. Each reader answers with
the text that is left behind what it read.
-/
namespace MarkdownToAdf.Toml
open Text

def isPlain (c : Char) : Bool :=
  c == '\t' || !isAsciiControl c

def newline? : List Char → Option (List Char)
  | '\n' :: r => some r
  | '\r' :: '\n' :: r => some r
  | _ => none

theorem newline?_length {s r : List Char} (h : newline? s = some r) : r.length < s.length := by
  unfold newline? at h
  split at h <;> grind

def skipBlanks (s : List Char) : List Char :=
  s.dropWhile isSpaceOrTab

theorem length_skipBlanks_le (s : List Char) : (skipBlanks s).length ≤ s.length :=
  (List.dropWhile_suffix _).length_le

def scalar? (n : Nat) (s : List Char) : Option (Char × List Char) :=
  let digits := s.take n
  let value := digits.foldl (fun v d => 16 * v + hexValue d) 0
  if digits.length = n ∧ digits.all isHexDigit ∧ value.isValidChar then
    some (Char.ofNat value, s.drop n)
  else none

def escape? : List Char → Option (Char × List Char)
  | 'b' :: r => some ('\x08', r)
  | 't' :: r => some ('\t', r)
  | 'n' :: r => some ('\n', r)
  | 'f' :: r => some ('\x0c', r)
  | 'r' :: r => some ('\r', r)
  | '\x22' :: r => some ('\x22', r)
  | '\\' :: r => some ('\\', r)
  | 'u' :: r => scalar? 4 r
  | 'U' :: r => scalar? 8 r
  | _ => none

theorem scalar?_length {n : Nat} {s r : List Char} {c : Char} (h : scalar? n s = some (c, r)) :
    r.length ≤ s.length := by
  simp only [scalar?] at h
  split at h
  · cases h
    simp
  · cases h

theorem escape?_length {s r : List Char} {c : Char} (h : escape? s = some (c, r)) :
    r.length < s.length := by
  unfold escape? at h
  split at h <;> first
    | (cases h; simp)
    | exact Nat.lt_succ_of_le (scalar?_length h)
    | cases h

def andThen (c : Char) (found : Option (List Char × List Char)) :
    Option (List Char × List Char) :=
  found.map fun (text, rest) => (c :: text, rest)

def basic? (s : List Char) : Option (List Char × List Char) :=
  match s with
  | [] => none
  | '\x22' :: r => some ([], r)
  | '\\' :: r =>
    match _ : escape? r with
    | some (c, rest) => andThen c (basic? rest)
    | none => none
  | c :: r => if isPlain c then andThen c (basic? r) else none
termination_by s.length
decreasing_by
  · exact Nat.lt_succ_of_lt (escape?_length ‹_›)
  · simp

def literal? : List Char → Option (List Char × List Char)
  | [] => none
  | '\x27' :: r => some ([], r)
  | c :: r => if isPlain c then andThen c (literal? r) else none

def skipBlankLines : List Char → List Char
  | '\r' :: '\n' :: r => skipBlankLines r
  | c :: r => if isSpaceOrTab c || c == '\n' then skipBlankLines r else c :: r
  | [] => []

theorem length_skipBlankLines_le (s : List Char) : (skipBlankLines s).length ≤ s.length := by
  fun_induction skipBlankLines s <;> simp_all <;> omega

/-- What is left behind a backslash that ends its line: the next text that is not blank. -/
def joinedLine? (s : List Char) : Option (List Char) :=
  (newline? (skipBlanks s)).map skipBlankLines

theorem joinedLine?_length {s r : List Char} (h : joinedLine? s = some r) :
    r.length < s.length := by
  obtain ⟨t, ht, rfl⟩ := Option.map_eq_some_iff.1 h
  have := newline?_length ht
  have := length_skipBlanks_le s
  have := length_skipBlankLines_le t
  omega

/-- The end of a string in three quotes of a kind: the quotes that belong to it, and the rest.
Three quotes are its end, and up to two more before them belong to it. -/
def closing? (quote : Char) (s : List Char) : Option (List Char × List Char) :=
  let n := (s.takeWhile (· == quote)).length
  if n < 3 then none else some (List.replicate (min (n - 3) 2) quote, s.drop (min n 5))

def quotedLines? (quote : Char) (s : List Char) : Option (List Char × List Char) :=
  match s with
  | [] => none
  | c :: r =>
    if c = quote then
      match closing? quote (c :: r) with
      | some found => some found
      | none => andThen c (quotedLines? quote r)
    else if c = '\\' ∧ quote = '\x22' then
      match _ : joinedLine? r with
      | some rest => quotedLines? quote rest
      | none =>
        match _ : escape? r with
        | some (d, rest) => andThen d (quotedLines? quote rest)
        | none => none
    else
      match _ : newline? (c :: r) with
      | some rest => andThen '\n' (quotedLines? quote rest)
      | none => if isPlain c then andThen c (quotedLines? quote r) else none
termination_by s.length
decreasing_by
  · simp
  · exact Nat.lt_succ_of_lt (joinedLine?_length ‹_›)
  · exact Nat.lt_succ_of_lt (escape?_length ‹_›)
  · exact newline?_length ‹_›
  · simp

/-- A line end directly behind three quotes does not count. -/
def afterNewline (s : List Char) : List Char :=
  (newline? s).getD s

def lineString? : List Char → Option (List Char × List Char)
  | '\x22' :: r => basic? r
  | '\x27' :: r => literal? r
  | _ => none

def string? : List Char → Option (List Char × List Char)
  | '\x22' :: '\x22' :: '\x22' :: r => quotedLines? '\x22' (afterNewline r)
  | '\x27' :: '\x27' :: '\x27' :: r => quotedLines? '\x27' (afterNewline r)
  | s => lineString? s

end MarkdownToAdf.Toml
