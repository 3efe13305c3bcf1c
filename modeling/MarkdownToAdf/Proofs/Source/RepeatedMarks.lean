import MarkdownToAdf.Proofs.Source.Passages

set_option autoImplicit false

/-!
# Marks of nested constructs

A text gets one mark from each construct around it and none besides. So a mark is repeated
where constructs of one kind are nested, and nowhere else; nothing can be nested in code.
-/
namespace MarkdownToAdf.Source
open Adf

/-- The marks that an inline without children gives to its own text. -/
def Inline.ownMarks : Inline → List Mark
  | .code _ => [.code]
  | .autolink url _ .email => [.link url]
  | .image destination _ => [.link destination]
  | _ => []

def Inline.shown : Inline → String
  | .text literal _ => literal
  | .code literal => literal
  | .autolink url label .email => if label.isEmpty then url else label
  | .image destination alt => if alt.isEmpty then destination else alt
  | _ => ""

/-- The marks of the constructs that an inline stands in, outermost first, and of itself. -/
def constructMarks (o : List Wrapper × Inline) : List Mark :=
  o.1.flatMap Wrapper.marks ++ o.2.ownMarks

/-- The marks of a character, if it has any. -/
def formatting? : Atom → Option (List Mark)
  | .char _ [] => none
  | .char _ (m :: ms) => some (m :: ms)
  | _ => none

section
variable {marks : List Mark} (hmarks : marks ≠ [])
include hmarks

theorem formatting?_eq_some (a : Atom) : formatting? a = some marks ↔ ∃ c, a = .char c marks := by
  fun_cases formatting? a with
  | case1 c => simp [hmarks.symm]
  | case2 c m ms => simp
  | case3 a hnil hcons =>
    refine ⟨nofun, ?_⟩
    rintro ⟨c, rfl⟩
    obtain ⟨m, ms, rfl⟩ := List.exists_cons_of_ne_nil hmarks
    exact absurd rfl (hcons c m ms)

theorem mem_formatting_charAtoms (s : String) (around : List Mark) :
    marks ∈ (charAtoms s.toList around).filterMap formatting? ↔ s ≠ "" ∧ around = marks := by
  simp only [charAtoms, List.mem_filterMap, List.mem_map, formatting?_eq_some hmarks,
    ← String.toList_eq_nil_iff.not]
  constructor
  · rintro ⟨_, ⟨c, hc, rfl⟩, d, heq⟩
    exact ⟨List.ne_nil_of_mem hc, (Atom.char.inj heq).2⟩
  · rintro ⟨hne, rfl⟩
    obtain ⟨c, hc⟩ := List.exists_mem_of_ne_nil _ hne
    exact ⟨_, ⟨c, hc, rfl⟩, c, rfl⟩

theorem mem_formatting_own (around : List Mark) (i : Inline) :
    marks ∈ (i.own around).filterMap formatting? ↔
      i.shown ≠ "" ∧ around ++ i.ownMarks = marks := by
  cases i with
  | text literal lineBreak =>
    have hbreak : (lineBreak.toList.map LineBreak.atom).filterMap formatting? = [] := by
      cases lineBreak with
      | none => rfl
      | some b => cases b <;> rfl
    rw [Inline.own, List.filterMap_append, hbreak, List.append_nil,
      mem_formatting_charAtoms hmarks]
    simp [Inline.shown, Inline.ownMarks]
  | code literal => exact mem_formatting_charAtoms hmarks literal _
  | autolink url label kind =>
    cases kind with
    | url => simp [Inline.own, Inline.shown, formatting?]
    | email => exact mem_formatting_charAtoms hmarks _ _
  | image destination alt => exact mem_formatting_charAtoms hmarks _ _
  | _ => simp [Inline.own, Inline.shown]

theorem mem_formatting_inlineAtoms (inlines : List Inline) :
    marks ∈ (inlineAtoms [] inlines).filterMap formatting? ↔
      ∃ o ∈ occurrencesIn [] inlines, o.2.shown ≠ "" ∧ constructMarks o = marks := by
  simp only [inlineAtoms, List.filterMap_flatMap, List.mem_flatMap, occurrenceAtoms,
    mem_formatting_own hmarks, List.nil_append, constructMarks]

theorem mem_formatting_node {n : Node} (h : n.sound = true) :
    marks ∈ n.own.filterMap formatting? ↔ n.marks = marks := by
  cases n with
  | text literal ms =>
    have hne : literal ≠ "" := bne_iff_ne.1 h
    rw [Node.own, mem_formatting_charAtoms hmarks]
    exact and_iff_right hne
  | _ => simp [Node.own, Node.marks, formatting?, hmarks.symm]

theorem mem_formatting_atomsOf (nodes : List Node)
    (h : ∀ n ∈ Node.preorderList nodes, n.sound = true) :
    marks ∈ (atomsOf nodes).filterMap formatting? ↔
      ∃ n ∈ Node.preorderList nodes, n.marks = marks := by
  rw [atomsOf, List.filterMap_flatMap, List.mem_flatMap]
  constructor
  · rintro ⟨n, hn, hmem⟩
    exact ⟨n, hn, (mem_formatting_node hmarks (h n hn)).1 hmem⟩
  · rintro ⟨n, hn, heq⟩
    exact ⟨n, hn, (mem_formatting_node hmarks (h n hn)).2 heq⟩

theorem marks_mem_ofMarkdown (e : Extensions) (text : String) :
    (∃ n ∈ Node.preorderList (document (ofMarkdown e text)).content, n.marks = marks) ↔
      ∃ content ∈ contentsIn (ofMarkdown e text), ∃ o ∈ occurrencesIn [] content,
        o.2.shown ≠ "" ∧ constructMarks o = marks := by
  have hsound : ∀ n ∈ Node.preorderList (document (ofMarkdown e text)).content, n.sound = true :=
    fun n hn => (sound_document _ n hn).1
  rw [← mem_formatting_atomsOf hmarks _ hsound]
  change marks ∈ (document (ofMarkdown e text)).atoms.filterMap formatting? ↔ _
  rw [atoms_ofMarkdown, filterMap_blockAtoms formatting? (fun _ => rfl) rfl]
  simp only [List.mem_flatMap, mem_formatting_inlineAtoms hmarks]

end

theorem code_not_mem_wrappers (around : List Wrapper) :
    ((around.flatMap Wrapper.marks).map Mark.kind).count "code" = 0 := by
  rw [List.count_eq_zero, List.mem_map]
  rintro ⟨m, hm, hkind⟩
  obtain ⟨w, -, hm⟩ := List.mem_flatMap.1 hm
  have hcode : m = .code := by
    cases m <;> simp [Mark.kind] at hkind ⊢
  subst hcode
  cases w with
  | emphasis level =>
    by_cases hlevel : level = 2 <;> simp [Wrapper.marks, hlevel] at hm
  | _ => simp [Wrapper.marks] at hm

theorem count_code_constructMarks (o : List Wrapper × Inline) :
    ((constructMarks o).map Mark.kind).count "code" ≤ 1 := by
  have hown : (o.2.ownMarks.map Mark.kind).count "code" ≤ 1 := by
    unfold Inline.ownMarks
    split <;> simp [Mark.kind]
  rw [constructMarks, List.map_append, List.count_append, code_not_mem_wrappers, Nat.zero_add]
  exact hown

/-- The marks of the texts are those of the constructs around what the source shows, each once
and outermost first. So a text has two marks of one kind where the source shows text inside two
constructs that give such a mark, and nowhere else; two marks for code there are never. -/
theorem document_repeatedMarks_iff (e : Extensions) (text : String) :
    (∀ (m : Mark) (ms : List Mark),
      (∃ n ∈ Node.preorderList (document (ofMarkdown e text)).content, n.marks = m :: ms) ↔
        ∃ content ∈ contentsIn (ofMarkdown e text), ∃ o ∈ occurrencesIn [] content,
          o.2.shown ≠ "" ∧ constructMarks o = m :: ms) ∧
    (∀ n ∈ Node.preorderList (document (ofMarkdown e text)).content,
      (n.marks.map Mark.kind).count "code" ≤ 1) ∧
    ∀ kind : String,
      (∃ n ∈ Node.preorderList (document (ofMarkdown e text)).content,
        2 ≤ (n.marks.map Mark.kind).count kind) ↔
      ∃ content ∈ contentsIn (ofMarkdown e text), ∃ o ∈ occurrencesIn [] content,
        o.2.shown ≠ "" ∧ 2 ≤ ((constructMarks o).map Mark.kind).count kind := by
  refine ⟨fun m ms => marks_mem_ofMarkdown (List.cons_ne_nil m ms) e text, ?_, ?_⟩
  · intro n hn
    by_cases hmarks : n.marks = []
    · simp [hmarks]
    · obtain ⟨content, -, o, -, -, heq⟩ := (marks_mem_ofMarkdown hmarks e text).1 ⟨n, hn, rfl⟩
      rw [← heq]
      exact count_code_constructMarks o
  · intro kind
    have hne {marks : List Mark} (h : 2 ≤ (marks.map Mark.kind).count kind) : marks ≠ [] := by
      rintro rfl
      exact absurd h (by simp)
    constructor
    · rintro ⟨n, hn, hcount⟩
      obtain ⟨content, hcontent, o, ho, hshown, heq⟩ :=
        (marks_mem_ofMarkdown (hne hcount) e text).1 ⟨n, hn, rfl⟩
      exact ⟨content, hcontent, o, ho, hshown, heq ▸ hcount⟩
    · rintro ⟨content, hcontent, o, ho, hshown, hcount⟩
      obtain ⟨n, hn, heq⟩ :=
        (marks_mem_ofMarkdown (hne hcount) e text).2 ⟨content, hcontent, o, ho, hshown, rfl⟩
      exact ⟨n, hn, heq ▸ hcount⟩

theorem document_repeats_em :
    ¬ ∀ n ∈ Node.preorderList (document (ofMarkdown {} "*a *b* c*")).content,
      (n.marks.map Mark.kind).Nodup := by
  decide +kernel

end MarkdownToAdf.Source
