import MarkdownToAdf.Text.Ascii
import MarkdownToAdf.Text.Blank
import MarkdownToAdf.Text.CaseFold

set_option autoImplicit false

/-!
# Labels

Two link labels name the same definition when they agree up to case and white space.
-/
namespace MarkdownToAdf.Text

def collapse : List Char → List Char
  | [] => []
  | c :: r =>
    if isBlank c then
      match r with
      | d :: _ => if isBlank d then collapse r else ' ' :: collapse r
      | [] => [' ']
    else c :: collapse r

def labelKey (label : List Char) : List Char :=
  fold (collapse (trim label))

end MarkdownToAdf.Text
