set_option autoImplicit false

/-!
# Marks

A mark is one piece of formatting on a text leaf. A leaf carries a list of marks,
outermost first, so adding a mark means appending it.
-/
namespace MarkdownToAdf.Adf

inductive Mark where
  | strong
  | em
  | code
  | strike
  | link (href : String)
  deriving DecidableEq, Repr, Inhabited

def Mark.kind : Mark → String
  | .strong => "strong"
  | .em => "em"
  | .code => "code"
  | .strike => "strike"
  | .link _ => "link"

end MarkdownToAdf.Adf
