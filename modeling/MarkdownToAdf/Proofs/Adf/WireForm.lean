import MarkdownToAdf.Adf.OfJson
import MarkdownToAdf.Format.Registry
import MarkdownToAdf.Proofs.Json.RoundTrip

set_option autoImplicit false

/-!
# The wire form loses nothing

Every document is read back from the text that it is written as, on one line or over many. The
members of an object are found by their names, so what was left out is known to have been empty;
an empty content is written out and differs from none.
-/
namespace MarkdownToAdf.Adf
open Json (array object string number bool)

theorem Mark.ofJson?_json (m : Mark) : Mark.ofJson? m.json = some m := by
  cases m <;> rfl

theorem mapM_ofJson?_json (marks : List Mark) :
    (marks.map Mark.json).mapM Mark.ofJson? = some marks := by
  induction marks with
  | nil => rfl
  | cons m r ih => simp [List.mapM_cons, Mark.ofJson?_json, ih]

theorem marks?_text (literal : String) (marks : List Mark) :
    marks? (("type", string "text") :: ("text", string literal) :: marksMember marks) =
      some marks := by
  cases marks with
  | nil => rfl
  | cons m r => exact mapM_ofJson?_json (m :: r)

theorem type_ne_content : "type" ≠ "content" := by
  decide

theorem attrs_ne_content : "attrs" ≠ "content" := by
  decide

theorem version_ne_content : "version" ≠ "content" := by
  decide

theorem contentIn?_append (members : List (String × Json)) (content : Json)
    (h : ∀ m ∈ members, m.1 ≠ "content") :
    contentIn? (members ++ [("content", content)]) = contentOf? content := by
  induction members with
  | nil => rw [List.nil_append, contentIn?, if_pos rfl]
  | cons m r ih =>
    obtain ⟨hm, hr⟩ := List.forall_mem_cons.1 h
    rw [List.cons_append, contentIn?, if_neg hm, ih hr]

theorem ofJson?_typed (kind : String) (members : List (String × Json)) (content : List Node)
    (hcontent : nodesOf? (jsonList content) = some content)
    (h : ∀ m ∈ members, m.1 ≠ "content") :
    Node.ofJson? (typed kind (members ++ [("content", array (jsonList content))])) =
      Node.ofMembers? (("type", string kind) ::
        (members ++ [("content", array (jsonList content))])) (some content) := by
  have hread := contentIn?_append (("type", string kind) :: members) (array (jsonList content))
    (List.forall_mem_cons.2 ⟨type_ne_content, h⟩)
  rw [contentOf?, hcontent] at hread
  rw [typed, Node.ofJson?, ← List.cons_append, hread]

theorem language_ne_content (language : Option String) :
    ∀ m ∈ languageMember language, m.1 ≠ "content" := by
  cases language with
  | none => exact List.forall_mem_nil _
  | some l => exact List.forall_mem_singleton.2 attrs_ne_content

theorem ofMembers?_codeBlock (language : Option String) (content : Json) (nodes : List Node) :
    Node.ofMembers? (("type", string "codeBlock") ::
        (languageMember language ++ [("content", content)])) (some nodes) =
      some (.codeBlock language nodes) := by
  cases language <;> rfl

theorem ofMembers?_text (literal : String) (marks : List Mark) (content : Option (List Node)) :
    Node.ofMembers?
        (("type", string "text") :: ("text", string literal) :: marksMember marks) content =
      some (.text literal marks) :=
  congrArg (Option.map (Node.text literal)) (marks?_text literal marks)

mutual

theorem Node.ofJson?_json : (n : Node) → Node.ofJson? n.json = some n
  | .paragraph c => by
    rw [Node.json]
    exact ofJson?_typed "paragraph" [] c (nodesOf?_jsonList c) (List.forall_mem_nil _)
  | .heading level c => by
    rw [Node.json]
    exact ofJson?_typed "heading" [_] c (nodesOf?_jsonList c)
      (List.forall_mem_singleton.2 attrs_ne_content)
  | .bulletList c => by
    rw [Node.json]
    exact ofJson?_typed "bulletList" [] c (nodesOf?_jsonList c) (List.forall_mem_nil _)
  | .orderedList c => by
    rw [Node.json]
    exact ofJson?_typed "orderedList" [] c (nodesOf?_jsonList c) (List.forall_mem_nil _)
  | .listItem c => by
    rw [Node.json]
    exact ofJson?_typed "listItem" [] c (nodesOf?_jsonList c) (List.forall_mem_nil _)
  | .codeBlock language c => by
    rw [Node.json, ofJson?_typed "codeBlock" _ c (nodesOf?_jsonList c) (language_ne_content language)]
    exact ofMembers?_codeBlock language _ c
  | .blockquote c => by
    rw [Node.json]
    exact ofJson?_typed "blockquote" [] c (nodesOf?_jsonList c) (List.forall_mem_nil _)
  | .rule => rfl
  | .table numbered c => by
    rw [Node.json]
    exact ofJson?_typed "table" [_] c (nodesOf?_jsonList c)
      (List.forall_mem_singleton.2 attrs_ne_content)
  | .tableRow c => by
    rw [Node.json]
    exact ofJson?_typed "tableRow" [] c (nodesOf?_jsonList c) (List.forall_mem_nil _)
  | .tableHeader c => by
    rw [Node.json]
    exact ofJson?_typed "tableHeader" [] c (nodesOf?_jsonList c) (List.forall_mem_nil _)
  | .tableCell c => by
    rw [Node.json]
    exact ofJson?_typed "tableCell" [] c (nodesOf?_jsonList c) (List.forall_mem_nil _)
  | .text literal marks => by
    rw [Node.json, typed, Node.ofJson?]
    exact ofMembers?_text literal marks _
  | .hardBreak => rfl
  | .inlineCard url => rfl

theorem nodesOf?_jsonList : (nodes : List Node) → nodesOf? (jsonList nodes) = some nodes
  | [] => by rw [jsonList, nodesOf?]
  | n :: r => by
    rw [jsonList, nodesOf?, Node.ofJson?_json n, nodesOf?_jsonList r]
    rfl

end

/-- What a node is read as that lacks some of its members. -/
structure ReadsOmissions (members : List (String × Json)) (content : Option (List Node))
    (n : Node) : Prop where
  content : content = none → n.isLeaf = true ∨ n = .rule
  marks : members.lookup "marks" = none → n.marks = []
  language : members.lookup "attrs" = none → ∀ language c, n = .codeBlock language c →
    language = none

theorem readsOmissions_ofMembers? {members : List (String × Json)} {content : Option (List Node)}
    {n : Node} (h : Node.ofMembers? members content = some n) :
    ReadsOmissions members content n := by
  unfold Node.ofMembers? at h
  split at h
  -- the kinds whose only member is their content
  case h_1 | h_3 | h_4 | h_5 | h_7 | h_10 | h_11 | h_12 =>
    obtain ⟨c, rfl, rfl⟩ := Option.map_eq_some_iff.1 h
    exact ⟨nofun, fun _ => rfl, nofun⟩
  case h_2 | h_9 =>
    obtain ⟨_, -, h⟩ := Option.bind_eq_some_iff.1 h
    obtain ⟨c, rfl, rfl⟩ := Option.map_eq_some_iff.1 h
    exact ⟨nofun, fun _ => rfl, nofun⟩
  case h_6 =>
    obtain ⟨language, hlanguage, h⟩ := Option.bind_eq_some_iff.1 h
    obtain ⟨c, rfl, rfl⟩ := Option.map_eq_some_iff.1 h
    refine ⟨nofun, fun _ => rfl, fun hattrs l d heq => ?_⟩
    cases heq
    rw [language?, hattrs] at hlanguage
    exact (Option.some.inj hlanguage).symm
  case h_8 | h_14 =>
    cases h
    exact ⟨fun _ => by decide, fun _ => rfl, nofun⟩
  case h_13 =>
    obtain ⟨literal, -, h⟩ := Option.bind_eq_some_iff.1 h
    obtain ⟨marks, hmarks, rfl⟩ := Option.map_eq_some_iff.1 h
    refine ⟨fun _ => .inl rfl, fun hnone => ?_, nofun⟩
    rw [marks?, hnone] at hmarks
    exact (Option.some.inj hmarks).symm
  case h_15 =>
    obtain ⟨url, -, rfl⟩ := Option.map_eq_some_iff.1 h
    exact ⟨fun _ => .inl rfl, fun _ => rfl, nofun⟩
  case h_16 => cases h

theorem contentIn?_eq_none {members : List (String × Json)}
    (h : members.lookup "content" = none) : contentIn? members = none := by
  induction members with
  | nil => rfl
  | cons m r ih =>
    obtain ⟨name, v⟩ := m
    rw [List.lookup_cons] at h
    split at h
    · cases h
    · rename_i hname
      have hne : name ≠ "content" := fun heq => absurd hname (by simp [heq])
      rw [contentIn?, if_neg hne, ih h]

theorem Document.ofMembers?_json (d : Document) :
    (d.json.object?.bind Document.ofMembers?) = some d := by
  have hcontent := contentIn?_append [("type", string "doc"), ("version", number d.version)]
    (array (jsonList d.content))
    (List.forall_mem_cons.2 ⟨type_ne_content, List.forall_mem_singleton.2 version_ne_content⟩)
  rw [contentOf?, nodesOf?_jsonList] at hcontent
  exact congrArg (Option.map (Document.mk d.version)) hcontent

open Format in
/-- Every document can be written, on one line or over many, and is read back from its text as it
was. An object without marks has none, a code block without attributes has no language, and a
node that may hold others is only read from an object with a content. -/
theorem read?_write (d : Document) (pretty : Bool) :
    (∃ text, (jsonFormat pretty).write d = .ok text ∧ Document.read? text = some d) ∧
      ∀ members n, Node.ofJson? (object members) = some n →
        (members.lookup "marks" = none → n.marks = []) ∧
        (members.lookup "attrs" = none → ∀ language c, n = .codeBlock language c →
          language = none) ∧
        (members.lookup "content" = none → n.isLeaf = true ∨ n = .rule) := by
  refine ⟨⟨jsonText pretty d, rfl, ?_⟩, fun members n h => ?_⟩
  · rw [Document.read?, jsonText, Json.read?_text, Option.bind_some, Document.ofMembers?_json]
  · rw [Node.ofJson?] at h
    have homissions := readsOmissions_ofMembers? h
    exact ⟨homissions.marks, homissions.language,
      fun hnone => homissions.content (contentIn?_eq_none hnone)⟩

end MarkdownToAdf.Adf
