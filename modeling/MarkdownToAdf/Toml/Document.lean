import MarkdownToAdf.Toml.Moment
import MarkdownToAdf.Toml.Number
import MarkdownToAdf.Toml.Quoted

set_option autoImplicit false

/-!
# TOML documents

A document is read line by line. A line names a table, defines a key in the table named last, or
holds nothing but blanks and a comment. Arrays and tables in braces may be nested, but not
without end.
-/
namespace MarkdownToAdf.Toml
open Text

def skipComment (s : List Char) : List Char :=
  match s with
  | '#' :: r => r.dropWhile isPlain
  | s => s

/-- What is left behind blanks, line ends and comments, perhaps from within a comment, which goes
on to the end of its line. -/
def skipSpaceFrom (inComment : Bool) : List Char → List Char
  | '\r' :: '\n' :: r => skipSpaceFrom false r
  | '\n' :: r => skipSpaceFrom false r
  | c :: r =>
    if inComment then (if isPlain c then skipSpaceFrom true r else c :: r)
    else if c = '#' then skipSpaceFrom true r
    else if isSpaceOrTab c then skipSpaceFrom false r
    else c :: r
  | [] => []

def skipSpace (s : List Char) : List Char :=
  skipSpaceFrom false s

def isBare (c : Char) : Bool :=
  c.isAlphanum || c == '_' || c == '-'

def simpleKey? (s : List Char) : Option (String × List Char) :=
  match lineString? s with
  | some (key, r) => some (String.ofList key, r)
  | none =>
    let bare := s.takeWhile isBare
    if bare.isEmpty then none else some (String.ofList bare, s.dropWhile isBare)

/-- The parts of a dotted key, with blanks around each of them. There are at most `n`. -/
def keyParts? : Nat → List Char → Option (List String × List Char)
  | 0, _ => none
  | n + 1, s =>
    (simpleKey? (skipBlanks s)).bind fun (k, r) =>
      match skipBlanks r with
      | '.' :: r => (keyParts? n r).map fun (ks, rest) => (k :: ks, rest)
      | r => some ([k], r)

structure Key where
  path : List String
  name : String

/-- How deep values may be nested, and how many parts a key may have. -/
def depthLimit : Nat := 79

def key? (s : List Char) : Option (Key × List Char) :=
  (keyParts? depthLimit s).bind fun (ks, rest) =>
    ks.getLast?.map fun name => (⟨ks.dropLast, name⟩, rest)

abbrev ValueReader := List Char → Option (Toml × List Char)

def boolean? : ValueReader
  | 't' :: 'r' :: 'u' :: 'e' :: r => some (.boolean true, r)
  | 'f' :: 'a' :: 'l' :: 's' :: 'e' :: r => some (.boolean false, r)
  | _ => none

def single? : ValueReader := fun s =>
  ((string? s).map fun (text, rest) => (.string (String.ofList text), rest)).or
    ((boolean? s).or
      (((moment? s).map fun (text, rest) => (.moment (String.ofList text), rest)).or
        ((float? s).or (integer? s))))

def items? (value? : ValueReader) : Nat → List Char → Option (List Toml × List Char)
  | 0, _ => none
  | n + 1, s =>
    match skipSpace s with
    | ']' :: r => some ([], r)
    | s =>
      (value? s).bind fun (v, r) =>
        match skipSpace r with
        | ']' :: r => some ([v], r)
        | ',' :: r => (items? value? n r).map fun (vs, rest) => (v :: vs, rest)
        | _ => none

def definition? (value? : ValueReader) (s : List Char) : Option ((Key × Toml) × List Char) :=
  (key? s).bind fun (key, r) =>
    match r with
    | '=' :: r => (value? (skipBlanks r)).map fun (v, rest) => ((key, v), skipBlanks rest)
    | _ => none

def members? (value? : ValueReader) (es : Entries) :
    Nat → List Char → Option (Entries × List Char)
  | 0, _ => none
  | n + 1, s =>
    (definition? value? s).bind fun ((key, v), r) =>
      (define v key.path key.name es).bind fun es =>
        match r with
        | '\x7d' :: r => some (es, r)
        | ',' :: r => members? value? es n r
        | _ => none

def closedTable? (value? : ValueReader) (s : List Char) : Option (Toml × List Char) :=
  match skipBlanks s with
  | '\x7d' :: r => some (.table .closed [], r)
  | s => (members? value? [] s.length s).map fun (es, rest) => (.table .closed es, rest)

def value? : Nat → ValueReader
  | depth + 1, '[' :: r =>
    (items? (value? depth) (r.length + 1) r).map fun (vs, rest) => (.array vs, rest)
  | depth + 1, '\x7b' :: r => closedTable? (value? depth) r
  | _, s => single? s

def lineEnd? (s : List Char) : Option (List Char) :=
  match skipComment (skipBlanks s) with
  | [] => some []
  | r => newline? r

/-- What has been read: the tree, and the path of the table named last. -/
structure Reading where
  entries : Entries
  path : List String

def header? (t : Reading) (s : List Char) : Option (Reading × List Char) :=
  let (isElement, s) := match s with
    | '[' :: r => (true, r)
    | s => (false, s)
  (key? s).bind fun (key, r) =>
    let rest? := match isElement, r with
      | true, ']' :: ']' :: r => some r
      | false, ']' :: r => some r
      | _, _ => none
    rest?.bind fun rest =>
      let begin := if isElement then beginElement key.name else beginTable key.name
      (changeAt begin key.path t.entries).map fun es => (⟨es, key.path ++ [key.name]⟩, rest)

def line? (t : Reading) (s : List Char) : Option (Reading × List Char) :=
  (definition? (value? depthLimit) s).bind fun ((key, v), rest) =>
    (changeAt (define v key.path key.name) t.path t.entries).map fun es =>
      ({ t with entries := es }, rest)

def lines : Nat → Reading → List Char → Option Entries
  | 0, _, _ => none
  | n + 1, t, s =>
    match skipBlanks s with
    | [] => some t.entries
    | c :: r =>
      let read? :=
        if c = '#' ∨ c = '\n' ∨ c = '\r' then some (t, c :: r)
        else if c = '[' then header? t r
        else line? t (c :: r)
      read?.bind fun (t, rest) => (lineEnd? rest).bind fun rest => lines n t rest

/-- The entries of a document. A byte order mark in front of it does not count. -/
def ofChars? (text : List Char) : Option Entries :=
  let s := match text with
    | '\uFEFF' :: r => r
    | s => s
  lines (s.length + 1) ⟨[], []⟩ s

def ofText? (text : String) : Option Entries :=
  ofChars? text.toList

end MarkdownToAdf.Toml
