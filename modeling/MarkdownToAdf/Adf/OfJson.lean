import MarkdownToAdf.Adf.Node
import MarkdownToAdf.Json.Reading

set_option autoImplicit false

/-!
# Documents from JSON

The members of an object are looked up by their names. Marks may be left out where there are
none, and the attributes of a code block where its language is not known; the content of a node
may not be left out, also where it is empty.
-/
namespace MarkdownToAdf

namespace Json

def string? : Json → Option String
  | string s => some s
  | _ => none

def number? : Json → Option Nat
  | number n => some n
  | _ => none

def bool? : Json → Option Bool
  | bool b => some b
  | _ => none

def object? : Json → Option (List (String × Json))
  | object members => some members
  | _ => none

end Json

namespace Adf

def attribute? (name : String) (members : List (String × Json)) : Option Json :=
  (members.lookup "attrs").bind fun attrs => attrs.object?.bind fun entries => entries.lookup name

def kind? (members : List (String × Json)) : Option String :=
  (members.lookup "type").bind Json.string?

def Mark.ofMembers? (members : List (String × Json)) : Option Mark :=
  match kind? members with
  | some "strong" => some .strong
  | some "em" => some .em
  | some "code" => some .code
  | some "strike" => some .strike
  | some "link" => ((attribute? "href" members).bind Json.string?).map .link
  | _ => none

def Mark.ofJson? (v : Json) : Option Mark :=
  v.object?.bind Mark.ofMembers?

def marks? (members : List (String × Json)) : Option (List Mark) :=
  match members.lookup "marks" with
  | none => some []
  | some (.array items) => items.mapM Mark.ofJson?
  | some _ => none

def language? (members : List (String × Json)) : Option (Option String) :=
  match members.lookup "attrs" with
  | none => some none
  | some _ => ((attribute? "language" members).bind Json.string?).map some

/-- Tables have one layout only. -/
def numbered? (members : List (String × Json)) : Option Bool :=
  if (attribute? "layout" members).bind Json.string? = some "default" then
    (attribute? "isNumberColumnEnabled" members).bind Json.bool?
  else none

def Node.ofMembers? (members : List (String × Json)) (content : Option (List Node)) :
    Option Node :=
  match kind? members with
  | some "paragraph" => content.map .paragraph
  | some "heading" =>
    ((attribute? "level" members).bind Json.number?).bind fun level => content.map (.heading level)
  | some "bulletList" => content.map .bulletList
  | some "orderedList" => content.map .orderedList
  | some "listItem" => content.map .listItem
  | some "codeBlock" => (language? members).bind fun language => content.map (.codeBlock language)
  | some "blockquote" => content.map .blockquote
  | some "rule" => some .rule
  | some "table" => (numbered? members).bind fun numbered => content.map (.table numbered)
  | some "tableRow" => content.map .tableRow
  | some "tableHeader" => content.map .tableHeader
  | some "tableCell" => content.map .tableCell
  | some "text" =>
    ((members.lookup "text").bind Json.string?).bind fun literal =>
      (marks? members).map (.text literal)
  | some "hardBreak" => some .hardBreak
  | some "inlineCard" => ((attribute? "url" members).bind Json.string?).map .inlineCard
  | _ => none

mutual

def Node.ofJson? : Json → Option Node
  | .object members => Node.ofMembers? members (contentIn? members)
  | _ => none

def contentIn? : List (String × Json) → Option (List Node)
  | [] => none
  | (name, value) :: r => if name = "content" then contentOf? value else contentIn? r

def contentOf? : Json → Option (List Node)
  | .array items => nodesOf? items
  | _ => none

def nodesOf? : List Json → Option (List Node)
  | [] => some []
  | v :: r => (Node.ofJson? v).bind fun n => (nodesOf? r).map (n :: ·)

end

def Document.ofMembers? (members : List (String × Json)) : Option Document :=
  if kind? members = some "doc" then
    ((members.lookup "version").bind Json.number?).bind fun version =>
      (contentIn? members).map (⟨version, ·⟩)
  else none

def Document.read? (text : String) : Option Document :=
  (Json.read? text).bind fun v => v.object?.bind Document.ofMembers?

end Adf

end MarkdownToAdf
