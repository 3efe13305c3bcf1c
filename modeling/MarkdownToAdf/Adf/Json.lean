import MarkdownToAdf.Adf.Node
import MarkdownToAdf.Json.Value

set_option autoImplicit false

/-!
# Documents as JSON

Every node is an object whose first member is its type. Marks are only written where there
are any, and the attributes of a code block only where its language is known.
-/
namespace MarkdownToAdf.Adf

def typed (type : String) (members : List (String × Json)) : Json :=
  .object (("type", .string type) :: members)

def Mark.json : Mark → Json
  | .link href => typed "link" [("attrs", .object [("href", .string href)])]
  | m => typed m.kind []

def marksMember (marks : List Mark) : List (String × Json) :=
  if marks.isEmpty then [] else [("marks", .array (marks.map Mark.json))]

def languageMember : Option String → List (String × Json)
  | some language => [("attrs", .object [("language", .string language)])]
  | none => []

mutual

def Node.json : Node → Json
  | .paragraph c => typed "paragraph" [("content", .array (jsonList c))]
  | .heading level c =>
    typed "heading"
      [("attrs", .object [("level", .number level)]), ("content", .array (jsonList c))]
  | .bulletList c => typed "bulletList" [("content", .array (jsonList c))]
  | .orderedList c => typed "orderedList" [("content", .array (jsonList c))]
  | .listItem c => typed "listItem" [("content", .array (jsonList c))]
  | .codeBlock language c =>
    typed "codeBlock" (languageMember language ++ [("content", .array (jsonList c))])
  | .blockquote c => typed "blockquote" [("content", .array (jsonList c))]
  | .rule => typed "rule" []
  | .table numbered c =>
    typed "table"
      [("attrs", .object
          [("isNumberColumnEnabled", .bool numbered), ("layout", .string "default")]),
        ("content", .array (jsonList c))]
  | .tableRow c => typed "tableRow" [("content", .array (jsonList c))]
  | .tableHeader c => typed "tableHeader" [("content", .array (jsonList c))]
  | .tableCell c => typed "tableCell" [("content", .array (jsonList c))]
  | .text literal marks => typed "text" (("text", .string literal) :: marksMember marks)
  | .hardBreak => typed "hardBreak" []
  | .inlineCard url => typed "inlineCard" [("attrs", .object [("url", .string url)])]

def jsonList : List Node → List Json
  | [] => []
  | n :: r => n.json :: jsonList r

end

def Document.json (d : Document) : Json :=
  typed "doc" [("version", .number d.version), ("content", .array (jsonList d.content))]

end MarkdownToAdf.Adf
