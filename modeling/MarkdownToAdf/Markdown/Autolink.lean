import MarkdownToAdf.Markdown.Span
import MarkdownToAdf.Text.Blank
import MarkdownToAdf.Text.CharacterReference
import MarkdownToAdf.Text.Symbol

set_option autoImplicit false

/-!
# Autolinks

Addresses that are links without link syntax: between angle brackets anywhere, and bare in
plain text where the extension is on.
-/
namespace MarkdownToAdf.Markdown
open Text

structure Address where
  label : List Char
  destination : List Char
  deriving DecidableEq, Repr, Inhabited

def Address.span (a : Address) (position : Option Position) : Span :=
  .link (String.ofList a.destination) position
    (if a.label.isEmpty then [] else [.text (String.ofList a.label)])

def mailScheme : List Char := "mailto:".toList

def isSchemeChar (c : Char) : Bool :=
  c.isAlphanum || c == '.' || c == '+' || c == '-'

def isUriChar (c : Char) : Bool :=
  ' ' < c && c != '<' && c != '>'

/-- A scheme of two to thirty-two characters, a colon and no white space, up to `>`. -/
def angleUri? (text : List Char) : Option (Address × List Char) :=
  let scheme := text.takeWhile isSchemeChar
  match text.dropWhile isSchemeChar with
  | ':' :: r =>
    if scheme.head?.any Char.isAlpha ∧ 2 ≤ scheme.length ∧ scheme.length ≤ 32 then
      match r.dropWhile isUriChar with
      | '>' :: rest =>
        let uri := decodeReferences (scheme ++ ':' :: r.takeWhile isUriChar)
        some (⟨uri, uri⟩, rest)
      | _ => none
    else none
  | _ => none

def isMailboxChar (c : Char) : Bool :=
  c.isAlphanum || (isAsciiPunct c && c != '\x22' && c != '(' && c != ')' && c != ',' && c != ':'
    && c != ';' && c != '<' && c != '>' && c != '@' && c != '[' && c != '\\' && c != ']')

def splitAtDots : List Char → List (List Char)
  | [] => [[]]
  | c :: r =>
    if c = '.' then [] :: splitAtDots r
    else match splitAtDots r with
      | [] => [[c]]
      | p :: ps => (c :: p) :: ps

def isHostLabel (l : List Char) : Bool :=
  l.head?.any Char.isAlphanum && l.getLast?.any Char.isAlphanum && l.length ≤ 63
    && l.all fun c => c.isAlphanum || c == '-'

def isHostText (c : Char) : Bool :=
  c.isAlphanum || c == '-' || c == '.'

def angleEmail? (text : List Char) : Option (Address × List Char) :=
  let mailbox := text.takeWhile isMailboxChar
  match text.dropWhile isMailboxChar with
  | '@' :: r =>
    let host := r.takeWhile isHostText
    match r.dropWhile isHostText with
    | '>' :: rest =>
      if !mailbox.isEmpty && (splitAtDots host).all isHostLabel then
        let address := decodeReferences (mailbox ++ '@' :: host)
        some (⟨address, mailScheme ++ address⟩, rest)
      else none
    | _ => none
  | _ => none

def angleAddress? (text : List Char) : Option (Address × List Char) :=
  match angleUri? text with
  | some a => some a
  | none => angleEmail? text

def isHostChar (c : Char) : Bool :=
  !(isBlank c || isSymbol c)

structure Domain where
  dots : Nat := 0
  earlier : Nat := 0
  later : Nat := 0

def Domain.hasDots (d : Domain) (short : Bool) : Bool :=
  short || 0 < d.dots

/-- Does a domain begin the text? Its last two parts hold no underscore, although a domain
that goes on to the end of the text and has more than ten dots is not looked at so closely.
It needs a dot unless it may be short. -/
def domainFits (short : Bool) : Domain → List Char → Bool
  | d, [] => d.hasDots short && ((d.earlier == 0 && d.later == 0) || 10 < d.dots)
  | d, c :: r =>
    if c = '\\' ∧ r ≠ [] then domainFits short d r
    else if c = '_' then domainFits short { d with later := d.later + 1 } r
    else if c = '.' then domainFits short ⟨d.dots + 1, d.later, 0⟩ r
    else if isHostChar c || c == '-' then domainFits short d r
    else d.hasDots short && d.earlier == 0 && d.later == 0

def isTrailing (c : Char) : Bool :=
  ['?', '!', '.', ',', ':', '*', '_', '~', '\x27', '\x22'].contains c

/-- Takes off the end of an address, given latest first, what belongs to the sentence around
it: punctuation, what looks like a character reference, and unmatched parentheses. -/
def trimTail : Nat → List Char → List Char
  | 0, address => address
  | _ + 1, [] => []
  | fuel + 1, c :: r =>
    if isTrailing c then trimTail fuel r
    else if c = ';' then
      match r.takeWhile Char.isAlpha, r.dropWhile Char.isAlpha with
      | _ :: _, '&' :: before => trimTail fuel before
      | _, _ => trimTail fuel r
    else if c = ')' ∧ (c :: r).count '(' < (c :: r).count ')' then trimTail fuel r
    else c :: r

def addressText (text : List Char) : List Char :=
  let address := text.takeWhile fun c => !isAsciiSpace c && c != '<'
  (trimTail address.length address.reverse).reverse

/-- An address that begins with `www.`; `before` is the character before it. -/
def wwwAddress? (before : Option Char) (text : List Char) : Option Address :=
  let free := before.all fun c => isAsciiSpace c || ['*', '_', '~', '(', '['].contains c
  if free && ['w', 'w', 'w', '.'].isPrefixOf text && domainFits false {} text then
    let address := addressText text
    some ⟨address, "http://".toList ++ address⟩
  else none

def schemes : List (List Char) :=
  ["http", "https", "ftp"].map String.toList

/-- An address around `://`, at which the text begins. The letters before it, latest first in
`before`, have to be a known scheme. -/
def schemeAddress? (before text : List Char) : Option Address :=
  let scheme := (before.takeWhile Char.isAlpha).reverse
  match text with
  | ':' :: '/' :: '/' :: c :: r =>
    if schemes.contains scheme && domainFits true {} (c :: r) then
      let address := scheme ++ addressText text
      some ⟨address, address⟩
    else none
  | _ => none

structure Mailbox where
  taken : Nat := 0
  bare : Bool := true
  xmpp : Bool := false

def isMailText (c : Char) : Bool :=
  c.isAlphanum || c == '.' || c == '+' || c == '-' || c == '_'

def mailboxBefore (m : Mailbox) : List Char → Mailbox
  | [] => m
  | c :: r =>
    if isMailText c then mailboxBefore { m with taken := m.taken + 1 } r
    else if c = ':' then
      let scheme := (r.takeWhile Char.isAlpha).reverse
      if scheme = "mailto".toList then
        mailboxBefore { m with taken := m.taken + 1, bare := false } r
      else if scheme = "xmpp".toList then
        mailboxBefore ⟨m.taken + 1, false, true⟩ r
      else m
    else m

/-- Reads the host behind an at sign: its characters and the number of its dots. Nothing is
read if another at sign follows. -/
def hostAfter? (xmpp : Bool) : List Char → Option (List Char × Nat)
  | [] => some ([], 0)
  | c :: r =>
    if c = '@' then none
    else if c = '.' then
      if r.head?.any Char.isAlphanum then
        (hostAfter? xmpp r).map fun (host, dots) => (c :: host, dots + 1)
      else some ([], 0)
    else if c.isAlphanum || c == '-' || c == '_' || (xmpp && c == '/') then
      (hostAfter? xmpp r).map fun (host, dots) => (c :: host, dots)
    else some ([], 0)

def mailAddress? (before behind : List Char) : Option (Address × Nat × Nat) :=
  let m := mailboxBefore {} before
  if m.taken = 0 then none
  else match hostAfter? m.xmpp behind with
    | none => none
    | some (host, dots) =>
      if 0 < dots ∧ host.getLast?.any Char.isAlpha then
        let address := (before.take m.taken).reverse ++ '@' :: host
        some (⟨address, if m.bare then mailScheme ++ address else address⟩, m.taken, host.length)
      else none

/-- Makes links of the e-mail addresses in a text, outside of brackets that it opens. The text
since the last link is given latest first, with the number of brackets it leaves open. -/
def mailSpansFrom : Nat → Int → List Char → List Char → List Span
  | _, _, read, [] => if read.isEmpty then [] else [.text (String.ofList read.reverse)]
  | skip + 1, depth, read, _ :: r => mailSpansFrom skip depth read r
  | 0, depth, read, c :: r =>
    let depth := if c = '[' then depth + 1 else if c = ']' then depth - 1 else depth
    match if c = '@' ∧ depth ≤ 0 then mailAddress? read r else none with
    | none => mailSpansFrom 0 depth (c :: read) r
    | some (a, taken, host) =>
      let text := read.drop taken
      (if text.isEmpty then [] else [.text (String.ofList text.reverse)])
        ++ a.span none :: mailSpansFrom host 0 [] r

def mailSpans (text : List Char) : List Span :=
  mailSpansFrom 0 0 [] text

mutual

def Span.linkMail : Span → List Span
  | .text literal => mailSpans literal.toList
  | .emph children => [.emph (linkMailIn children)]
  | .strong children => [.strong (linkMailIn children)]
  | .strike children => [.strike (linkMailIn children)]
  | .softBreak => [.softBreak]
  | .hardBreak => [.hardBreak]
  | .code literal => [.code literal]
  | .html literal => [.html literal]
  | .link destination position children => [.link destination position children]
  | .image destination children => [.image destination children]
  | .other kind children => [.other kind (linkMailIn children)]

def linkMailIn : List Span → List Span
  | [] => []
  | s :: r => s.linkMail ++ linkMailIn r

end

end MarkdownToAdf.Markdown
