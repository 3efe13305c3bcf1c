set_option autoImplicit false

/-!
# JSON values

The JSON values that documents are written as. Objects keep the order of their members.
-/
namespace MarkdownToAdf

inductive Json where
  | string (s : String)
  | number (n : Nat)
  | bool (b : Bool)
  | array (items : List Json)
  | object (members : List (String × Json))
  deriving Repr, Inhabited

end MarkdownToAdf
