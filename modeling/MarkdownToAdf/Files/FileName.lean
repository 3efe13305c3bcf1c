set_option autoImplicit false

/-!
# File names

The extension of a path is what follows the last dot of its last part. Slashes at the end and
parts that are a single dot do not count as parts.
-/
namespace MarkdownToAdf.Files

def splitAtSlashes : List Char → List (List Char)
  | [] => [[]]
  | c :: r =>
    if c = '/' then [] :: splitAtSlashes r
    else match splitAtSlashes r with
      | [] => [[c]]
      | p :: ps => (c :: p) :: ps

/-- The last part of a path, unless it leads upwards. -/
def fileName? (path : List Char) : Option (List Char) :=
  match ((splitAtSlashes path).filter fun p => p != [] && p != ['.']).getLast? with
  | some p => if p = ['.', '.'] then none else some p
  | none => none

/-- What follows the last dot of a name, unless that dot is its first character. -/
def extensionOf? (name : List Char) : Option (List Char) :=
  let after := name.reverse.takeWhile (· != '.')
  match name.reverse.dropWhile (· != '.') with
  | _ :: _ :: _ => some after.reverse
  | _ => none

def extension? (path : String) : Option String :=
  ((fileName? path.toList).bind extensionOf?).map String.ofList

end MarkdownToAdf.Files
