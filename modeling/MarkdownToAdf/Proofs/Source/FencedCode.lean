import MarkdownToAdf.Proofs.Conversion.DocumentAtoms
import MarkdownToAdf.Proofs.Markdown.FencedCode
import MarkdownToAdf.Proofs.Text.Literal
import MarkdownToAdf.Source.OfMarkdown

set_option autoImplicit false

/-!
# Fenced code in documents

A fenced block whose info string is one plain word becomes a block of code in that language, and
its body stands in the document as it was written.
-/
namespace MarkdownToAdf.Source
open Adf Markdown Text

/-- A visible ASCII character that means nothing but itself behind a fence. -/
def IsPlain (c : Char) : Prop :=
  '!' ≤ c ∧ c ≤ '~' ∧ c ≠ '\x60' ∧ c ≠ '\\' ∧ c ≠ '&'

instance (c : Char) : Decidable (IsPlain c) :=
  inferInstanceAs (Decidable (_ ∧ _ ∧ _ ∧ _ ∧ _))

theorem IsPlain.toNat {c : Char} (h : IsPlain c) : 0x21 ≤ c.toNat ∧ c.toNat ≤ 0x7E :=
  ⟨h.1, h.2.1⟩

theorem IsPlain.ne {c d : Char} (h : IsPlain c) (hd : d.toNat ≤ 0x20) : c ≠ d := by
  rintro rfl
  have := h.toNat
  omega

theorem IsPlain.isBlank {c : Char} (h : IsPlain c) : isBlank c = false := by
  have := h.toNat
  refine Bool.eq_false_iff.2 fun hblank => ?_
  simp only [Text.isBlank, Bool.or_eq_true, Bool.and_eq_true, decide_eq_true_eq, beq_iff_eq] at hblank
  omega

theorem IsPlain.isAsciiSpace {c : Char} (h : IsPlain c) : isAsciiSpace c = false := by
  refine Bool.eq_false_iff.2 fun hblank => ?_
  simp only [Text.isAsciiSpace, Bool.or_eq_true, Bool.and_eq_true, decide_eq_true_eq,
    beq_iff_eq] at hblank
  rcases hblank with hspace | hcontrol
  · exact h.ne (by decide) hspace
  · have := h.toNat
    omega

theorem words_of_isBlank {text : List Char} (hne : text ≠ []) (h : ∀ c ∈ text, isBlank c = false) :
    words text = [text] := by
  induction text with
  | nil => exact absurd rfl hne
  | cons c r ih =>
    obtain ⟨hc, hr⟩ := List.forall_mem_cons.1 h
    cases r with
    | nil => simp [words, hc]
    | cons d r =>
      have hd := (List.forall_mem_cons.1 hr).1
      rw [words, ih (List.cons_ne_nil _ _) hr]
      simp [hc, hd]

theorem blocks_code (k : Reader) (room : Nat) (b : CodeBlock) :
    k.blocks room [.code b] = ([.code b], room) := rfl

theorem ofMarkdown_code {e : Extensions} {text : String} {b : CodeBlock}
    (h : (Draft.ofText e.options text.toList).done = [.code b]) : ofMarkdown e text = [.code b] := by
  unfold ofMarkdown
  dsimp only
  rw [h, List.reverse_singleton, blocks_code]

theorem withoutTerminator_append {body : List Char} (h : '\r' ∉ body) :
    withoutTerminator (body ++ ['\n']) = body := by
  have hreturn : ¬ ['\r', '\n'].isSuffixOf (body ++ ['\n']) = true := by
    rw [List.isSuffixOf_iff_suffix]
    intro hsuffix
    have hmem : '\r' ∈ body ++ ['\n'] := hsuffix.subset (List.mem_cons_self ..)
    rcases List.mem_append.1 hmem with hbody | hfeed
    · exact h hbody
    · exact absurd hfeed (by decide)
  have hfeed : ['\n'].isSuffixOf (body ++ ['\n']) = true :=
    List.isSuffixOf_iff_suffix.2 (List.suffix_append _ _)
  rw [withoutTerminator, if_neg hreturn, if_pos hfeed, List.dropLast_concat]

theorem node_plainCode {word body : String} (hne : word ≠ "") (hword : ∀ c ∈ word.toList, IsPlain c)
    (hbody : '\r' ∉ body.toList) :
    CodeBlock.node ⟨true, word, String.ofList (body.toList ++ ['\n'])⟩ =
      .codeBlock (some word) (textLeaf body []) := by
  have hwords : words word.toList = [word.toList] :=
    words_of_isBlank (fun h => hne (String.toList_eq_nil_iff.1 h)) fun c hc => (hword c hc).isBlank
  have hlanguage : CodeBlock.language ⟨true, word, String.ofList (body.toList ++ ['\n'])⟩ =
      some word := by
    simp [CodeBlock.language, hwords]
  have hstripped : CodeBlock.body ⟨true, word, String.ofList (body.toList ++ ['\n'])⟩ = body := by
    refine String.toList_inj.1 ?_
    rw [body_toList, String.toList_ofList, withoutTerminator_append hbody]
  rw [CodeBlock.node, hlanguage, hstripped]

/-- A block of code between fences of three backticks is carried over as it stands: the word
behind the opening fence is its language, and its body is its text. -/
theorem document_fencedCode (e : Extensions) (word body : String) (hne : word ≠ "")
    (hword : ∀ c ∈ word.toList, IsPlain c)
    (hbody : ∀ c ∈ body.toList, c ≠ '\x60' ∧ c ≠ '\r' ∧ c ≠ '\x00') :
    document (ofMarkdown e ("\x60\x60\x60" ++ word ++ "\n" ++ body ++ "\n\x60\x60\x60")) =
      ⟨1, [.codeBlock (some word) (if body = "" then [] else [.text body []])]⟩ := by
  have htext : ("\x60\x60\x60" ++ word ++ "\n" ++ body ++ "\n\x60\x60\x60").toList =
      tick :: tick :: tick ::
        (word.toList ++ '\n' :: (body.toList ++ '\n' :: [tick, tick, tick])) := by
    simp [tick]
  have hclean : IsClean word.toList := fun c hc =>
    ⟨(hword c hc).ne (by decide), (hword c hc).ne (by decide)⟩
  have hline : '\n' ∉ word.toList := fun h => (hword _ h).ne (d := '\n') (by decide) rfl
  have hwordTick : tick ∉ word.toList := fun h => (hword _ h).2.2.1 rfl
  have hbodyTick : tick ∉ body.toList := fun h => (hbody _ h).1 rfl
  have hreturn : '\r' ∉ body.toList := fun h => (hbody _ h).2.1 rfl
  have hreference : '&' ∉ word.toList := fun h => (hword _ h).2.2.2.2 rfl
  have hescape : '\\' ∉ word.toList := fun h => (hword _ h).2.2.2.1 rfl
  have hinfo : unescape (trim (decodeReferences word.toList)) = word.toList := by
    rw [decodeReferences_of_not_mem hreference,
      trim_of_isAsciiSpace fun c hc => (hword c hc).isAsciiSpace, unescape_of_not_mem hescape]
  have hdone := Draft.done_fenced e.options hclean hline hwordTick (fun c hc => (hbody c hc).2) hbodyTick
  rw [← htext, hinfo, String.ofList_toList] at hdone
  have hnode := node_plainCode hne hword hreturn
  rw [ofMarkdown_code hdone]
  simp only [document, nodes, Block.node?, hnode, textLeaf]
  rfl

theorem document_fencedCode_rust :
    ("rust" ≠ "" ∧ (∀ c ∈ "rust".toList, IsPlain c) ∧
      ∀ c ∈ "\n# a\n\t**b**\n".toList, c ≠ '\x60' ∧ c ≠ '\r' ∧ c ≠ '\x00') ∧
    document (ofMarkdown {} ("\x60\x60\x60" ++ "rust" ++ "\n" ++ "\n# a\n\t**b**\n" ++
      "\n\x60\x60\x60")) = ⟨1, [.codeBlock (some "rust") [.text "\n# a\n\t**b**\n" []]]⟩ := by
  have hall : "rust".toList.all (fun c => decide (IsPlain c)) = true := by decide
  have hword : ∀ c ∈ "rust".toList, IsPlain c := by
    simpa only [List.all_eq_true, decide_eq_true_eq] using hall
  have hbody : ∀ c ∈ "\n# a\n\t**b**\n".toList, c ≠ '\x60' ∧ c ≠ '\r' ∧ c ≠ '\x00' := by
    simp
  exact ⟨⟨by decide, hword, hbody⟩, document_fencedCode {} "rust" _ (by decide) hword hbody⟩

end MarkdownToAdf.Source
