import MarkdownToAdf.Text.Ascii

set_option autoImplicit false

/-!
# Raw HTML

Tags, comments, processing instructions, declarations and CDATA sections, recognized without
being understood. A recognizer answers with what is left of the text behind its construct.
-/
namespace MarkdownToAdf.Markdown
open Text

inductive TagState where
  | start
  | name
  /-- Behind the white space that may come before an attribute. -/
  | gap
  | attribute
  /-- Behind an attribute name and white space: a value may still follow. -/
  | attributeGap
  | equals
  | unquoted
  | quoted (quote : Char)
  | valueEnd
  | slash
  | closeStart
  | closeName
  | closeGap
  deriving DecidableEq, Repr

def isNameStart (c : Char) : Bool :=
  c.isAlpha || c == '_' || c == ':'

def isNameChar (c : Char) : Bool :=
  c.isAlphanum || c == '_' || c == ':' || c == '.' || c == '-'

def isTagChar (c : Char) : Bool :=
  c.isAlphanum || c == '-'

def isUnquotedChar (c : Char) : Bool :=
  !(isAsciiSpace c || c == '\x22' || c == '\x27' || c == '=' || c == '<' || c == '>' || c == '\x60')

def TagState.next? : TagState → Char → Option TagState
  | .start, c => if c.isAlpha then some .name else if c = '/' then some .closeStart else none
  | .name, c =>
    if isTagChar c then some .name else if isAsciiSpace c then some .gap
    else if c = '/' then some .slash else none
  | .gap, c =>
    if isAsciiSpace c then some .gap else if isNameStart c then some .attribute
    else if c = '/' then some .slash else none
  | .attribute, c =>
    if isNameChar c then some .attribute else if isAsciiSpace c then some .attributeGap
    else if c = '=' then some .equals else if c = '/' then some .slash else none
  | .attributeGap, c =>
    if isAsciiSpace c then some .attributeGap else if c = '=' then some .equals
    else if isNameStart c then some .attribute else if c = '/' then some .slash else none
  | .equals, c =>
    if isAsciiSpace c then some .equals
    else if c = '\x22' ∨ c = '\x27' then some (.quoted c)
    else if isUnquotedChar c then some .unquoted else none
  | .unquoted, c =>
    if isUnquotedChar c then some .unquoted else if isAsciiSpace c then some .gap else none
  | .quoted quote, c => if c = quote then some .valueEnd else some (.quoted quote)
  | .valueEnd, c =>
    if isAsciiSpace c then some .gap else if c = '/' then some .slash else none
  | .slash, _ => none
  | .closeStart, c => if c.isAlpha then some .closeName else none
  | .closeName, c =>
    if isTagChar c then some .closeName else if isAsciiSpace c then some .closeGap else none
  | .closeGap, c => if isAsciiSpace c then some .closeGap else none

def TagState.ends : TagState → Bool
  | .name | .gap | .attribute | .attributeGap | .unquoted | .valueEnd | .slash | .closeName
  | .closeGap => true
  | .start | .equals | .quoted _ | .closeStart => false

def tagFrom : TagState → List Char → Option (List Char)
  | _, [] => none
  | s, c :: r =>
    if c = '>' ∧ s.ends then some r
    else match s.next? c with
      | some t => tagFrom t r
      | none => none

def tag? (text : List Char) : Option (List Char) :=
  tagFrom .start text

/-- A comment behind its two opening hyphens. Hyphens are taken by threes. -/
def commentEnd? : List Char → Option (List Char)
  | '-' :: '-' :: '>' :: r => some r
  | '-' :: '-' :: _ :: r => commentEnd? r
  | '-' :: _ :: r => commentEnd? r
  | _ :: r => commentEnd? r
  | [] => none

def instructionEnd? : List Char → Option (List Char)
  | '?' :: '>' :: r => some r
  | '?' :: _ :: r => instructionEnd? r
  | _ :: r => instructionEnd? r
  | [] => none

def cdataEnd? : List Char → Option (List Char)
  | ']' :: ']' :: '>' :: r => some r
  | ']' :: ']' :: _ :: r => cdataEnd? r
  | ']' :: _ :: r => cdataEnd? r
  | _ :: r => cdataEnd? r
  | [] => none

def declarationEnd? : List Char → Option (List Char)
  | [] => none
  | c :: r => if c = '>' then some r else declarationEnd? r

/-- Which searches have run into the end of the text once, so that they are not tried again. -/
structure HtmlMemory where
  comment : Bool := false
  cdata : Bool := false
  declaration : Bool := false
  instruction : Bool := false
  deriving DecidableEq, Repr, Inhabited

def html? (m : HtmlMemory) : List Char → Option (List Char) × HtmlMemory
  | '!' :: r =>
    if m.comment then (none, m)
    else match r with
      | '-' :: '-' :: '>' :: rest => (some rest, m)
      | '-' :: '-' :: '-' :: '>' :: rest => (some rest, m)
      | '-' :: '-' :: body =>
        match commentEnd? body with
        | some rest => (some rest, m)
        | none => (none, { m with comment := true })
      | '[' :: body =>
        if m.cdata then (none, m)
        else match body with
          | 'C' :: 'D' :: 'A' :: 'T' :: 'A' :: '[' :: inner =>
            match cdataEnd? inner with
            | some rest => (some rest, m)
            | none => (none, { m with cdata := true })
          | _ => (none, m)
      | c :: body =>
        if m.declaration then (none, m)
        else if c.isAlpha then
          match declarationEnd? body with
          | some rest => (some rest, m)
          | none => (none, { m with declaration := true })
        else (none, m)
      | [] => (none, m)
  | '?' :: r =>
    if m.instruction then (none, m)
    else match instructionEnd? r with
      | some rest => (some rest, m)
      | none => (none, { m with instruction := true })
  | r => (tag? r, m)

def verbatimElements : List (List Char) :=
  ["script", "pre", "textarea", "style"].map String.toList

def blockElements : List (List Char) :=
  ["address", "article", "aside", "base", "basefont", "blockquote", "body", "caption", "center",
    "col", "colgroup", "dd", "details", "dialog", "dir", "div", "dl", "dt", "fieldset",
    "figcaption", "figure", "footer", "form", "frame", "frameset", "h1", "h2", "h3", "h4", "h5",
    "h6", "head", "header", "hr", "html", "iframe", "legend", "li", "link", "main", "menu",
    "menuitem", "nav", "noframes", "ol", "optgroup", "option", "p", "param", "search",
    "section", "summary", "table", "tbody", "td", "tfoot", "th", "thead", "title", "tr",
    "track", "ul"].map String.toList

def startsIgnoringCase (start text : List Char) : Bool :=
  sameIgnoringCase start (text.take start.length) 

def containsIgnoringCase (part : List Char) : List Char → Bool
  | [] => part.isEmpty
  | c :: r => startsIgnoringCase part (c :: r) || containsIgnoringCase part r

/-- The ways in which a block of raw HTML begins, which also fix how it ends. -/
inductive HtmlBlock where
  | verbatim
  | comment
  | instruction
  | declaration
  | cdata
  | element
  | tag
  deriving DecidableEq, Repr

/-- An element of the list, its name ended by white space, the line's end, `>` or, if
allowed, `/>`. -/
def elementStarts (names : List (List Char)) (slash : Bool) (text : List Char) : Bool :=
  let name := text.takeWhile Char.isAlphanum
  names.contains (name.map Char.toLower) &&
    match text.dropWhile Char.isAlphanum with
    | [] => true
    | '/' :: '>' :: _ => slash
    | c :: _ => isAsciiSpace c || c == '>'

def loneTag (text : List Char) : Bool :=
  match tag? text with
  | some rest => rest.all fun c => c == ' ' || c == '\t' || c == '\x0c'
  | none => false

/-- The kind of HTML block that a line begins. A lone tag may not interrupt a paragraph. -/
def htmlBlock? (interrupting : Bool) : List Char → Option HtmlBlock
  | '<' :: r =>
    if elementStarts verbatimElements false r then some .verbatim
    else if ['!', '-', '-'].isPrefixOf r then some .comment
    else if ['?'].isPrefixOf r then some .instruction
    else if startsIgnoringCase ['!', '[', 'C', 'D', 'A', 'T', 'A', '['] r then some .cdata
    else if r.head? = some '!' ∧ (r.drop 1).head?.any Char.isAlpha then some .declaration
    else if elementStarts blockElements true (if r.head? = some '/' then r.drop 1 else r) then
      some .element
    else if !interrupting ∧ loneTag r then some .tag
    else none
  | _ => none

def HtmlBlock.endsWith (kind : HtmlBlock) (line : List Char) : Bool :=
  match kind with
  | .verbatim => verbatimElements.any fun name =>
      containsIgnoringCase ('<' :: '/' :: name ++ ['>']) line
  | .comment => containsIgnoringCase ['-', '-', '>'] line
  | .instruction => containsIgnoringCase ['?', '>'] line
  | .declaration => line.contains '>'
  | .cdata => containsIgnoringCase [']', ']', '>'] line
  | .element | .tag => false

def HtmlBlock.endsAtBlank : HtmlBlock → Bool
  | .element | .tag => true
  | _ => false

end MarkdownToAdf.Markdown
