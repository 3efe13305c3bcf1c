import MarkdownToAdf.Markdown.Span

set_option autoImplicit false

/-!
# Emphasis

Runs of `*`, `_` and `~` may open and close emphasis. They are paired from left to right: a
run that can close looks back for the nearest run that can open and goes with it, and what
stands between the two becomes one span.
-/
namespace MarkdownToAdf.Markdown

/-- Delimiters of one kind side by side; `left` of them have found no partner yet. -/
structure Run where
  mark : Char
  length : Nat
  left : Nat
  canOpen : Bool
  canClose : Bool
  place : Nat
  deriving DecidableEq, Repr, Inhabited

inductive Piece where
  | char (c : Char)
  | run (r : Run)
  | span (s : Span)
  deriving Repr, Inhabited

def Run.chars (r : Run) : List Piece :=
  List.replicate r.left (.char r.mark)

def textSpan (literal : List Char) : List Span :=
  if literal.isEmpty then [] else [.text (String.ofList literal)]

/-- Pieces as spans, behind characters that are given latest first. Runs are text here. -/
def spansFrom : List Char → List Piece → List Span
  | read, [] => textSpan read.reverse
  | read, .char c :: r => spansFrom (c :: read) r
  | read, .run d :: r => spansFrom (List.replicate d.left d.mark ++ read) r
  | read, .span s :: r => textSpan read.reverse ++ s :: spansFrom [] r

def spansOf (pieces : List Piece) : List Span :=
  spansFrom [] pieces

/-- Runs that can both open and close do not pair up when the sum of their lengths is a
multiple of three, unless both lengths are. -/
def Run.clash (opener closer : Run) : Bool :=
  (closer.canOpen || opener.canClose) && (opener.length + closer.length) % 3 == 0
    && !(opener.length % 3 == 0 && closer.length % 3 == 0)

def Run.opens (opener closer : Run) : Bool :=
  opener.canOpen && opener.mark == closer.mark && !opener.clash closer

/-- The runs for which one failed search speaks. -/
structure SearchClass where
  mark : Char
  canOpen : Bool
  remainder : Nat
  deriving DecidableEq, Repr

def Run.searchClass (r : Run) : SearchClass :=
  if r.mark = '*' then ⟨r.mark, r.canOpen, r.length % 3⟩ else ⟨r.mark, false, 0⟩

/-- Where the search for an opener may stop, because it has failed beyond. -/
abbrev Floors := List (SearchClass × Nat)

def Floors.floor (fs : Floors) (r : Run) : Nat :=
  (fs.lookup r.searchClass).getD 0

structure Opener where
  between : List Piece
  run : Run
  before : List Piece

/-- Looks for an opener among the pieces before a closer, which are given latest first. -/
def findOpener (floor : Nat) (closer : Run) : List Piece → List Piece → Option Opener
  | _, [] => none
  | between, .run o :: r =>
    if o.place < floor then none
    else if o.opens closer then some ⟨between, o, r⟩
    else findOpener floor closer (.run o :: between) r
  | between, p :: r => findOpener floor closer (p :: between) r

def pairWidth (opener closer : Run) : Nat :=
  if 2 ≤ opener.left ∧ 2 ≤ closer.left then 2 else 1

def pairSpan (mark : Char) (width : Nat) (children : List Span) : Span :=
  if mark = '~' then .strike children
  else if width = 2 then .strong children
  else .emph children

def Run.rest (r : Run) (used : Nat) : List Piece :=
  if r.left ≤ used then [] else [.run { r with left := r.left - used }]

structure Pairing where
  before : List Piece
  floors : Floors
  /-- Has a pair of tildes of unequal lengths put an end to all pairing? -/
  stopped : Bool := false

def Pairing.close : Nat → Run → Pairing → Pairing
  | 0, _, p => p
  | fuel + 1, closer, p =>
    match findOpener (p.floors.floor closer) closer [] p.before with
    | none =>
      let floors := (closer.searchClass, closer.place) :: p.floors
      if closer.canOpen then { p with before := .run closer :: p.before, floors := floors }
      else { p with before := closer.chars ++ p.before, floors := floors }
    | some o =>
      let width := pairWidth o.run closer
      if closer.mark = '~' ∧ (o.run.left ≠ closer.left ∨ width < o.run.left) then
        { p with before := .run closer :: p.before, stopped := true }
      else
        let s := pairSpan closer.mark width (spansOf o.between)
        let p := { p with before := .span s :: (o.run.rest width ++ o.before) }
        if closer.left ≤ width then p
        else p.close fuel { closer with left := closer.left - width }

def Pairing.step (p : Pairing) (piece : Piece) : Pairing :=
  match piece with
  | .run r =>
    if r.canClose && !p.stopped then p.close r.left r
    else { p with before := .run r :: p.before }
  | piece => { p with before := piece :: p.before }

def pairRuns (pieces : List Piece) : List Span :=
  spansOf (pieces.foldl Pairing.step ⟨[], [], false⟩).before.reverse

end MarkdownToAdf.Markdown
