import MarkdownToAdf.Config.Value

set_option autoImplicit false

/-!
# Places in a configuration

A place is written as a key, behind which further keys follow after a point and numbers of items
in square brackets. Setting a place makes the tables and arrays on the way to it.
-/
namespace MarkdownToAdf.Config

inductive Step where
  | key (name : String)
  /-- An item by its number; negative numbers count from the end. -/
  | item (n : Int)
  deriving DecidableEq, Repr

structure Place where
  first : String
  steps : List Step
  deriving DecidableEq, Repr

namespace Place

def isKeyChar (c : Char) : Bool :=
  c.isAlphanum || c == ' ' || c == '_' || c == '-'

def key? (s : List Char) : Option (String × List Char) :=
  let key := s.takeWhile isKeyChar
  if key.isEmpty then none else some (String.ofList key, s.dropWhile isKeyChar)

def isGap (c : Char) : Bool :=
  c == ' ' || c == '\t'

def item? (s : List Char) : Option (Int × List Char) :=
  let s := s.dropWhile isGap
  let (negative, s) := match s with
    | '-' :: r => (true, r)
    | s => (false, s)
  let digits := s.takeWhile Char.isDigit
  let value : Nat := digits.foldl (fun v d => 10 * v + (d.toNat - 48)) 0
  let n : Int := if negative then -value else value
  match (s.dropWhile Char.isDigit).dropWhile isGap with
  | ']' :: rest =>
    if digits.isEmpty ∨ n < -9223372036854775808 ∨ 9223372036854775807 < n then none
    else some (n, rest)
  | _ => none

def steps? : Nat → List Char → Option (List Step)
  | _, [] => some []
  | n + 1, '.' :: r => (key? r).bind fun (k, rest) => (steps? n rest).map (.key k :: ·)
  | n + 1, '[' :: r => (item? r).bind fun (i, rest) => (steps? n rest).map (.item i :: ·)
  | _, _ => none

def ofText? (text : String) : Option Place :=
  (key? text.toList).bind fun (first, rest) =>
    (steps? rest.length rest).map fun steps => ⟨first, steps⟩

def index (n : Int) (length : Nat) : Nat :=
  if 0 ≤ n then n.toNat else length - (-n).toNat

end Place

namespace Value
open Text

def items : Value → List Value
  | array _ vs => vs
  | _ => []

def arrayOrigin : Value → Option String
  | array origin _ => origin
  | _ => none

/-- Changes an item. What is no array gives way to one, and missing items are nothing. -/
def changeItem (n : Int) (change : Value → Value) (v : Value) : Value :=
  let i := Place.index n v.items.length
  let items := v.items ++ List.replicate (i + 1 - v.items.length) nothing
  .array v.arrayOrigin (items.modify i change)

/-- Sets a place below a value: a key is laid over what it has, an item is replaced. -/
def setBelow (new : Value) : Step → List Step → Value → Value
  | .key k, [], v => v.set (lowercase k) (overlaid (v.get? (lowercase k)) new)
  | .item n, [], v => v.changeItem n fun _ => new
  | .key k, s :: r, v =>
    v.set (lowercase k) (setBelow new s r ((v.get? (lowercase k)).getD nothing))
  | .item n, s :: r, v => v.changeItem n (setBelow new s r)

def setPlace (v : Value) (place : Place) (new : Value) : Value :=
  setBelow new (.key place.first) place.steps v

/-- Lays the entries of a file over a value. Their keys are places, if they are written so. -/
def layFile (v : Value) (es : List (String × Value)) : Value :=
  es.foldl (fun v (key, new) => v.setPlace ((Place.ofText? key).getD ⟨key, []⟩) new) v

end Value

end MarkdownToAdf.Config
