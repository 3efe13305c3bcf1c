import MarkdownToAdf.Markdown.Autolink
import MarkdownToAdf.Markdown.Emphasis
import MarkdownToAdf.Markdown.Html
import MarkdownToAdf.Markdown.Link
import MarkdownToAdf.Markdown.Options
import MarkdownToAdf.Markdown.Outline

set_option autoImplicit false

/-!
# Reading inline content

A passage is read once from left to right. Brackets that may become links are kept on a stack
until they are closed; runs of delimiters are paired when a link is complete and at the end.
Each step reads one character and says how many more belong to it.
-/
namespace MarkdownToAdf.Markdown
open Text

/-- A bracket that is still open, with the pieces before it, latest first, and the text behind it. -/
structure Bracket where
  image : Bool
  before : List Piece
  behind : List Char
  position : Position
  followed : Bool := false

/-- What has been read so far. Characters, pieces and brackets are kept latest first. -/
structure Scan where
  seen : List Char := []
  bytes : Nat := 0
  /-- The number of line breaks that count for positions, and the bytes up to the last one. -/
  breaks : Nat := 0
  lineStart : Nat := 0
  pieces : List Piece := []
  brackets : List Bracket := []
  inBrackets : Bool := false
  afterLink : Bool := true
  memory : HtmlMemory := {}
  /-- How many bytes may still be written by expanding references. -/
  room : Nat

structure Setting where
  options : Options
  definitions : List Definition
  passage : Passage

/-- What one step did: the new state, and the characters it took besides the first. -/
structure Step where
  scan : Scan
  more : Nat := 0

namespace Scan

def push (p : Piece) (s : Scan) : Scan :=
  { s with pieces := p :: s.pieces }

def pushText (text : List Char) (s : Scan) : Scan :=
  { s with pieces := text.reverse.map .char ++ s.pieces }

def advance (taken : List Char) (s : Scan) : Scan :=
  { s with seen := taken.reverse ++ s.seen, bytes := s.bytes + byteLength taken }

def position (g : Setting) (s : Scan) : Position :=
  ⟨g.passage.line + s.breaks, s.bytes + 1 - s.lineStart + g.passage.offsets.getD s.breaks 0⟩

end Scan

/-- One step over the front of a text, given what is left of it afterwards. -/
def Scan.step (text rest : List Char) (s : Scan) : Step :=
  ⟨s.advance (upTo text rest), text.length - rest.length - 1⟩

/-- A line break is hard if two spaces come before it. The blanks behind it are no text. -/
def readBreak (s : Scan) (r : List Char) : Step :=
  let hard := match s.seen with
    | ' ' :: ' ' :: _ => true
    | _ => false
  let s := s.push (.span (if hard then .hardBreak else .softBreak))
  let s := { s with breaks := s.breaks + 1, lineStart := s.bytes + 1 }
  s.step ('\n' :: r) (skipBlanks r)

def isActive (e : Options) (c : Char) : Bool :=
  ['\n', '_', '*', '\x60', '\\', '&', '<', '[', ']', '!'].contains c
    || (e.autolink && (c == ':' || c == 'w')) || (e.strikethrough && c == '~')

def endsWithHardBreak : List Piece → Bool
  | .span .hardBreak :: _ => true
  | _ => false

def readText (g : Setting) (s : Scan) (c : Char) (r : List Char) : Step :=
  let text := c :: r.takeWhile fun d => !isActive g.options d
  let rest := r.dropWhile fun d => !isActive g.options d
  let shown := if rest.head? = some '\n' then trimEnd text else text
  let shown := if endsWithHardBreak s.pieces then trimStart shown else shown
  (s.pushText shown).step (c :: r) rest

/-- The text before the first run of exactly `n` backticks, given that the characters in
`read`, latest first, have been read and the last `ticks` of them are backticks. -/
def codeBefore? (n ticks : Nat) (read : List Char) : List Char → Option (List Char)
  | [] => if ticks = n then some (read.drop n).reverse else none
  | c :: r =>
    if c = '\x60' then codeBefore? n (ticks + 1) (c :: read) r
    else if ticks = n then some (read.drop n).reverse
    else codeBefore? n 0 (c :: read) r

/-- Line ends in code are spaces, and one space at each end is left out if there is both and
more than spaces. -/
def cleanCode (written : List Char) : List Char :=
  let text := written.map fun c => if c = '\n' then ' ' else c
  if text.head? = some ' ' ∧ text.getLast? = some ' ' ∧ text.any (· != ' ') then
    (text.drop 1).dropLast
  else text

def readCode (s : Scan) (r : List Char) : Step :=
  let n := 1 + (r.takeWhile (· == '\x60')).length
  let behind := r.dropWhile (· == '\x60')
  match if n ≤ 80 then codeBefore? n 0 [] behind else none with
  | some written =>
    (s.push (.span (.code (String.ofList (cleanCode written))))).step ('\x60' :: r)
      (behind.drop (written.length + n))
  | none => (s.pushText (List.replicate n '\x60')).step ('\x60' :: r) behind

/-- A backslash before punctuation hides it, and before a line end it is a hard break. -/
def readBackslash (s : Scan) (r : List Char) : Step :=
  match r with
  | '\n' :: rest => (s.push (.span .hardBreak)).step ('\\' :: r) rest
  | c :: rest =>
    if isAsciiPunct c then (s.push (.char c)).step ('\\' :: r) rest
    else (s.push (.char '\\')).step ('\\' :: r) r
  | [] => (s.push (.char '\\')).step ['\\'] []

def readReference (s : Scan) (r : List Char) : Step :=
  match reference? r with
  | some (text, taken) => (s.pushText text).step ('&' :: r) (r.drop taken)
  | none => (s.push (.char '&')).step ('&' :: r) r

def readAngle (g : Setting) (s : Scan) (r : List Char) : Step :=
  match angleAddress? r with
  | some (a, rest) => (s.push (.span (a.span (some (s.position g))))).step ('<' :: r) rest
  | none =>
    let (rest?, memory) := html? s.memory r
    let s := { s with memory := memory }
    match rest? with
    | some rest =>
      (s.push (.span (.html (String.ofList ('<' :: upTo r rest))))).step ('<' :: r) rest
    | none => (s.push (.char '<')).step ('<' :: r) r

def neighbour (e : Options) (text : List Char) : Char :=
  ((if e.strikethrough then text.dropWhile (· == '~') else text).head?).getD '\n'

/-- May a run between two characters open, and may it close? It opens towards text and closes
away from it; punctuation only counts as text if what is on the other side is no text. Inside
a word an underscore does neither. -/
def flanks (mark before after : Char) : Bool × Bool :=
  let left := !isBlank after && (!isSymbol after || isBlank before || isSymbol before)
  let right := !isBlank before && (!isSymbol before || isBlank after || isSymbol after)
  if mark = '_' then (left && (!right || isSymbol before), right && (!left || isSymbol after))
  else (left, right)

def readRun (g : Setting) (s : Scan) (mark : Char) (r : List Char) : Step :=
  let n := 1 + (r.takeWhile (· == mark)).length
  let rest := r.dropWhile (· == mark)
  let (canOpen, canClose) :=
    flanks mark (neighbour g.options s.seen) (neighbour g.options rest)
  let live := mark != '~' || n ≤ 2
  (s.push (.run ⟨mark, n, n, live && canOpen, live && canClose, s.bytes + n⟩)).step
    (mark :: r) rest

def readWww (s : Scan) (r : List Char) : Step :=
  match if s.inBrackets then none else wwwAddress? s.seen.head? ('w' :: r) with
  | some a =>
    (s.push (.span (a.span none))).step ('w' :: r) (('w' :: r).drop a.label.length)
  | none => (s.push (.char 'w')).step ('w' :: r) r

def readColon (s : Scan) (r : List Char) : Step :=
  match if s.inBrackets then none else schemeAddress? s.seen (':' :: r) with
  | some a =>
    let scheme := (s.seen.takeWhile Char.isAlpha).length
    let s := { s with pieces := s.pieces.drop scheme }
    (s.push (.span (a.span none))).step (':' :: r) ((':' :: r).drop (a.label.length - scheme))
  | none => (s.push (.char ':')).step (':' :: r) r

def openBracket (g : Setting) (image : Bool) (s : Scan) (text rest : List Char) : Step :=
  let brackets := match s.brackets with
    | [] => []
    | b :: bs => { b with followed := true } :: bs
  let b : Bracket := ⟨image, s.pieces, rest, s.position g, false⟩
  { s with brackets := b :: brackets, pieces := [], inBrackets := true
           afterLink := image && s.afterLink }.step text rest

def Bracket.chars (b : Bracket) : List Piece :=
  if b.image then [.char '[', .char '!'] else [.char '[']

def Scan.dropBracket (s : Scan) : Scan :=
  match s.brackets with
  | [] => s
  | b :: bs => { s with brackets := bs, pieces := s.pieces ++ b.chars ++ b.before }

/-- The target of a reference behind the text of a link, the text that is left behind it, and
the room that expanding it leaves. A label of its own counts first; without one the text of the
link is the label, if no bracket was opened in it. -/
def referenceTarget? (g : Setting) (s : Scan) (b : Bracket) (r : List Char) :
    Option (Target × List Char × Nat) :=
  let own := label? r
  let (label, rest) := own.getD ([], r)
  let label? :=
    if label.isEmpty && !b.followed then some (upTo b.behind (']' :: r))
    else own.map Prod.fst
  match label?.bind (lookUp g.definitions) with
  | some t => if s.room < t.size then none else some (t, rest, s.room - t.size)
  | none => none

/-- Completes a link or an image. No link may hold another one. -/
def closeLink (s : Scan) (b : Bracket) (bs : List Bracket) (t : Target) : Scan :=
  let children := pairRuns s.pieces.reverse
  let destination := String.ofList t.destination
  let span :=
    if b.image then .image destination children
    else .link destination (some b.position) children
  { s with brackets := bs, pieces := .span span :: b.before
           afterLink := s.afterLink || !b.image }

def closeBracket (g : Setting) (s : Scan) (r : List Char) : Step :=
  let s := { s with inBrackets := false }
  let plain := (s.dropBracket.push (.char ']')).step (']' :: r) r
  match s.brackets with
  | [] => plain
  | b :: bs =>
    if !b.image && s.afterLink then plain
    else match inlineTarget? r with
      | some (t, rest) => (closeLink s b bs t).step (']' :: r) rest
      | none => match referenceTarget? g s b r with
        | some (t, rest, room) =>
          (closeLink { s with room := room } b bs t).step (']' :: r) rest
        | none => plain

def readBang (g : Setting) (s : Scan) (r : List Char) : Step :=
  match r with
  | '[' :: rest =>
    if rest.head? = some '^' then (s.push (.char '!')).step ('!' :: r) r
    else openBracket g true s ('!' :: r) rest
  | _ => (s.push (.char '!')).step ('!' :: r) r

def readNext (g : Setting) (s : Scan) (c : Char) (r : List Char) : Step :=
  match c with
  | '\n' => readBreak s r
  | '\x60' => readCode s r
  | '\\' => readBackslash s r
  | '&' => readReference s r
  | '<' => readAngle g s r
  | '[' => openBracket g false s ('[' :: r) r
  | ']' => closeBracket g s r
  | '!' => readBang g s r
  | '*' => readRun g s '*' r
  | '_' => readRun g s '_' r
  | c =>
    if c = '~' ∧ g.options.strikethrough then readRun g s '~' r
    else if c = ':' ∧ g.options.autolink then readColon s r
    else if c = 'w' ∧ g.options.autolink then readWww s r
    else readText g s c r

/-- Reads a text, the first `skip` characters of which have been taken already. -/
def scanFrom (g : Setting) : Nat → Scan → List Char → Scan
  | _, s, [] => s
  | skip + 1, s, _ :: r => scanFrom g skip s r
  | 0, s, c :: r =>
    let step := readNext g s c r
    scanFrom g step.more step.scan r

def Scan.dropBrackets (s : Scan) : List Piece :=
  s.brackets.foldl (fun pieces b => pieces ++ b.chars ++ b.before) s.pieces

def readPassage (e : Options) (definitions : List Definition) (room : Nat) (p : Passage) :
    List Span × Nat :=
  let s := scanFrom ⟨e, definitions, p⟩ 0 { room := room } (trimEnd p.text)
  let spans := pairRuns s.dropBrackets.reverse
  (if e.autolink then linkMailIn spans else spans, s.room)

end MarkdownToAdf.Markdown
