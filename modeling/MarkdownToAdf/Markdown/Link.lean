import MarkdownToAdf.Text.CharacterReference
import MarkdownToAdf.Text.Label

set_option autoImplicit false

/-!
# Link syntax

Destinations, titles and labels, as they occur in inline links and in definitions. A reader
answers with what it read and what is left of the text.
-/
namespace MarkdownToAdf.Markdown
open Text

def angleDestination? : List Char → Option (List Char × List Char)
  | '>' :: r => if r.isEmpty then none else some ([], r)
  | '\\' :: c :: r => (angleDestination? r).map fun (d, rest) => ('\\' :: c :: d, rest)
  | c :: r =>
    if c = '\n' ∨ c = '<' then none
    else (angleDestination? r).map fun (d, rest) => (c :: d, rest)
  | [] => none

/-- A bare destination, read while the given number of parentheses is open. It ends before
white space, a control character or an unmatched closing parenthesis, never with the text. -/
def bareDestination? : Nat → List Char → Option (List Char × List Char)
  | _, [] => none
  | depth, '\\' :: c :: r =>
    if isAsciiPunct c then
      (bareDestination? depth r).map fun (d, rest) => ('\\' :: c :: d, rest)
    else (bareDestination? depth (c :: r)).map fun (d, rest) => ('\\' :: d, rest)
  | depth, c :: r =>
    if c = '(' then
      if 32 ≤ depth then none
      else (bareDestination? (depth + 1) r).map fun (d, rest) => (c :: d, rest)
    else if c = ')' then
      match depth with
      | 0 => some ([], c :: r)
      | depth + 1 => (bareDestination? depth r).map fun (d, rest) => (c :: d, rest)
    else if isAsciiSpace c || isAsciiControl c then
      if depth = 0 then some ([], c :: r) else none
    else (bareDestination? depth r).map fun (d, rest) => (c :: d, rest)

def destination? : List Char → Option (List Char × List Char)
  | '<' :: r => angleDestination? r
  | c :: r => if isAsciiSpace c || isAsciiControl c then none else bareDestination? 0 (c :: r)
  | [] => none

def cleanDestination (written : List Char) : List Char :=
  decode (trim written)

/-- The end of a title: the first closing mark without a backslash before it, or the last one
with a backslash if there is no such mark. In parentheses an opening one needs a backslash. -/
def titleEnd? (close : Char) : Bool → List Char → Option (List Char)
  | _, [] => none
  | escaped, c :: r =>
    if c = close then
      if escaped then
        match titleEnd? close false r with
        | some rest => some rest
        | none => some r
      else some r
    else if close = ')' ∧ c = '(' then
      if escaped then titleEnd? close false r else none
    else titleEnd? close (c == '\\') r

def title? : List Char → Option (List Char)
  | '\x22' :: r => titleEnd? '\x22' false r
  | '\x27' :: r => titleEnd? '\x27' false r
  | '(' :: r => titleEnd? ')' false r
  | _ => none

def cleanTitle (written : List Char) : List Char :=
  decode (written.drop 1).dropLast

def upTo (text rest : List Char) : List Char :=
  text.take (text.length - rest.length)

def labelFrom? : Nat → List Char → Option (List Char × List Char)
  | _, [] => none
  | room, '\\' :: c :: r =>
    if isAsciiPunct c then
      if room < 2 then none
      else (labelFrom? (room - 2) r).map fun (l, rest) => ('\\' :: c :: l, rest)
    else if room < 1 then none
    else (labelFrom? (room - 1) (c :: r)).map fun (l, rest) => ('\\' :: l, rest)
  | room, c :: r =>
    if c = ']' then some ([], r)
    else if c = '[' then none
    else if room < c.utf8Size then none
    else (labelFrom? (room - c.utf8Size) r).map fun (l, rest) => (c :: l, rest)

/-- A label in brackets, at most a thousand bytes long, without white space at its ends. -/
def label? : List Char → Option (List Char × List Char)
  | '[' :: r => (labelFrom? 1000 r).map fun (l, rest) => (trim l, rest)
  | _ => none

structure Target where
  destination : List Char
  title : List Char
  deriving DecidableEq, Repr, Inhabited

/-- The bytes that a target counts for when references are expanded. -/
def Target.size (t : Target) : Nat :=
  byteLength t.destination + byteLength t.title

def inlineTarget? : List Char → Option (Target × List Char)
  | '(' :: r =>
    match destination? (trimStart r) with
    | none => none
    | some (written, behind) =>
      let gap := trimStart behind
      let rest := if gap.length = behind.length then gap else (title? gap).getD gap
      match trimStart rest with
      | ')' :: rest' => some (⟨cleanDestination written, cleanTitle (upTo gap rest)⟩, rest')
      | _ => none
  | _ => none

structure Definition where
  label : List Char
  target : Target
  deriving DecidableEq, Repr, Inhabited

/-- The target that a label stands for: of several definitions the first one counts. -/
def lookUp (definitions : List Definition) (label : List Char) : Option Target :=
  (definitions.find? fun d => d.label == labelKey label).map Definition.target

def skipBlanks (text : List Char) : List Char :=
  text.dropWhile isSpaceOrTab

def skipLineBlanks (text : List Char) : List Char :=
  match skipBlanks text with
  | '\n' :: r => skipBlanks r
  | r => r

def nextLine? (text : List Char) : Option (List Char) :=
  match skipBlanks text with
  | '\n' :: r => some r
  | [] => some []
  | _ => none

/-- The title of a definition, which needs white space before it and nothing behind it, and
the lines that follow. -/
def definitionTitle? (behind : List Char) : Option (List Char × List Char) :=
  let gap := skipLineBlanks behind
  let titled :=
    if gap.length = behind.length then none
    else (title? gap).bind fun rest => (nextLine? rest).map fun next =>
      (cleanTitle (upTo gap rest), next)
  match titled with
  | some t => some t
  | none => (nextLine? behind).map fun next => ([], next)

def definition? (text : List Char) : Option (Definition × List Char) :=
  match label? text with
  | some (label, ':' :: r) =>
    if label.isEmpty then none
    else (destination? (skipLineBlanks r)).bind fun (written, behind) =>
      (definitionTitle? behind).map fun (title, next) =>
        (⟨labelKey label, ⟨cleanDestination written, title⟩⟩, next)
  | _ => none

def definitionsFrom : Nat → List Char → List Definition × List Char
  | 0, text => ([], text)
  | fuel + 1, text =>
    match definition? text with
    | some (d, next) =>
      let (ds, rest) := definitionsFrom fuel next
      (d :: ds, rest)
    | none => ([], text)

/-- Every definition takes at least one character, so the length of the text is enough. -/
def definitions (text : List Char) : List Definition × List Char :=
  definitionsFrom text.length text

end MarkdownToAdf.Markdown
