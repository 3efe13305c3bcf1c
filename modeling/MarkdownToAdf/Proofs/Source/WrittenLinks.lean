import MarkdownToAdf.Conversion.Block
import MarkdownToAdf.Proofs.Markdown.OneLine
import MarkdownToAdf.Proofs.Markdown.WrittenLinks
import MarkdownToAdf.Source.OfMarkdown

set_option autoImplicit false

/-!
# Written links and addresses in documents

A link whose text is its own destination and the same address between angle brackets are read as
the same span. The document tells them apart: the one is text with a mark, the other is a card.
-/
namespace MarkdownToAdf.Source
open Adf Markdown Text

/-- A letter, a digit, a dot, a slash or a hyphen. Characters beyond ASCII count as letters. -/
def IsAddressChar (c : Char) : Prop :=
  c.isAlphanum = true ∨ c ∈ ['.', '/', '-'] ∨ 0x7F < c.toNat

instance (c : Char) : Decidable (IsAddressChar c) :=
  inferInstanceAs (Decidable (_ ∨ _ ∨ _))

theorem toNat_of_isAlphanum {c : Char} (h : c.isAlphanum = true) :
    0x30 ≤ c.toNat ∧ c.toNat ≤ 0x7A := by
  unfold Char.isAlphanum Char.isAlpha Char.isUpper Char.isLower Char.isDigit at h
  simp only [Bool.or_eq_true, Bool.and_eq_true, decide_eq_true_eq, UInt32.le_iff_toNat_le,
    ge_iff_le] at h
  have hval : c.toNat = c.val.toNat := rfl
  have hupper : 'Z'.val.toNat = 0x5A := rfl
  have hlower : 'z'.val.toNat = 0x7A := rfl
  have hdigit : '9'.val.toNat = 0x39 := rfl
  change ((0x41 ≤ c.val.toNat ∧ _) ∨ (0x61 ≤ c.val.toNat ∧ _)) ∨ (0x30 ≤ c.val.toNat ∧ _) at h
  omega

theorem isQuiet_of_isAddressChar {c : Char} (hc : IsAddressChar c) : IsQuiet c := by
  have hmarks : c ∉ linkMarks := by
    have hall : linkMarks.all (fun d => decide ¬ IsAddressChar d) = true := by decide
    exact fun hmem => of_decide_eq_true (List.all_eq_true.1 hall c hmem) hc
  have hvisible : 0x20 < c.toNat ∧ c.toNat ≠ 0x7F := by
    rcases hc with halpha | hsign | hbeyond
    · have htoNat := toNat_of_isAlphanum halpha
      omega
    · simp only [List.mem_cons, List.not_mem_nil, or_false] at hsign
      rcases hsign with rfl | rfl | rfl <;> decide
    · omega
  exact ⟨hvisible.1, hvisible.2, hmarks⟩

theorem isQuiet_secureScheme : ∀ c ∈ secureScheme, IsQuiet c := by
  have hall : secureScheme.all (fun c => decide (IsQuiet c)) = true := by decide
  exact fun c hc => of_decide_eq_true (List.all_eq_true.1 hall c hc)

theorem visible_of_quiet {u : List Char} (hu : ∀ c ∈ u, IsQuiet c) : ∀ c ∈ u, ' ' ≤ c :=
  fun c hc => Nat.le_of_lt (hu c hc).1

theorem byteAt_first {c : Char} {b : UInt8} (hb : String.utf8EncodeChar c = [b]) (r : List Char) :
    (LineTable.ofText (c :: r)).byteAt 1 1 = some b := by
  have hbytes : (bytesOf (c :: r))[0]? = some b := by
    rw [bytesOf, List.flatMap_cons, hb]
    rfl
  exact hbytes

theorem ofMarkdown_paragraph {e : Extensions} {text : String} {p : Passage} {spans : List Span}
    (hdraft : Draft.ofText e.options text.toList = { done := [.paragraph p], line := 1 })
    (hspans : ∀ room, (readPassage e.options [] room p).1 = spans) :
    ofMarkdown e text = [.paragraph (inlinesOf (LineTable.ofText text.toList) spans)] := by
  unfold ofMarkdown
  dsimp only
  rw [hdraft, List.reverse_singleton, ← hspans]
  rfl

section
variable (e : Extensions) {u : List Char} (hu : ∀ c ∈ u, IsQuiet c)
include hu

theorem ofText_link :
    Draft.ofText e.options ('[' :: (u ++ ']' :: '(' :: (u ++ [')']))) =
      { done := [.paragraph ⟨'[' :: (u ++ ']' :: '(' :: (u ++ [')', '\n'])), 1, [0]⟩]
        line := 1 } := by
  have hspace := visible_of_quiet hu
  have hvisible : ∀ c ∈ '[' :: (u ++ ']' :: '(' :: (u ++ [')'])), ' ' ≤ c := by
    simp only [List.forall_mem_cons, List.forall_mem_append]
    exact ⟨by decide, hspace, by decide, by decide, hspace, by decide, nofun⟩
  have hline : '[' :: (u ++ ']' :: '(' :: (u ++ [')'])) ++ ['\n'] =
      '[' :: (u ++ ']' :: '(' :: (u ++ [')', '\n'])) := by simp
  have hdefinition := definition?_quiet hu (u ++ [')', '\n'])
  rw [← hline] at hdefinition ⊢
  exact ofText_innocent (by decide) e.options hvisible rfl hdefinition

theorem ofText_angle :
    Draft.ofText e.options ('<' :: (secureScheme ++ ('/' :: u ++ ['>']))) =
      { done := [.paragraph ⟨'<' :: (secureScheme ++ ('/' :: u ++ ['>', '\n'])), 1, [0]⟩]
        line := 1 } := by
  have hspace := visible_of_quiet hu
  have hscheme := visible_of_quiet isQuiet_secureScheme
  have hvisible : ∀ c ∈ '<' :: (secureScheme ++ ('/' :: u ++ ['>'])), ' ' ≤ c := by
    simp only [List.forall_mem_cons, List.forall_mem_append]
    exact ⟨by decide, hscheme, ⟨by decide, hspace⟩, by decide, nofun⟩
  have hline : '<' :: (secureScheme ++ ('/' :: u ++ ['>'])) ++ ['\n'] =
      '<' :: (secureScheme ++ ('/' :: u ++ ['>', '\n'])) := by simp
  rw [← hline]
  -- no tag has a name with a colon, so this is no raw HTML either
  exact ofText_innocent (by decide) e.options hvisible rfl rfl

end

theorem document_paragraph {inlines : List Inline} {n : Node} {r : List Node}
    (h : leaves [] inlines = n :: r) :
    document [.paragraph inlines] = ⟨1, [.paragraph (n :: r)]⟩ := by
  simp only [document, nodes, Block.node?, h, paragraphNode?, Option.toList_some, List.append_nil]

theorem showsAddress_self (url : String) : showsAddress url url = true := by
  simp [showsAddress]

section
variable (table : LineTable) (url : String)

def shownAddress (url : String) : Span :=
  .link url (some ⟨1, 1⟩) [.text url]

theorem inlinesOf_shownAddress :
    inlinesOf table [shownAddress url] =
      if table.byteAt 1 1 = some openingBracket then [.link url [.text url none]]
      else [.autolink url url (addressKind url)] := by
  have hlabel : spansText [.text url] = url := by simp [spansText, spanText]
  have halone : inlinesOf table [shownAddress url] = [inlineOf table (shownAddress url)] := rfl
  rw [halone, shownAddress, inlineOf, hlabel]
  by_cases hbyte : table.byteAt 1 1 = some openingBracket
  · simp [isAutolink, showsAddress_self, hbyte, inlinesOf, inlineOf]
  · simp [isAutolink, showsAddress_self, hbyte]

theorem document_shownAddress (hurl : url ≠ "") (hkind : addressKind url = .url) :
    document [.paragraph (inlinesOf table [shownAddress url])] =
      if table.byteAt 1 1 = some openingBracket then ⟨1, [.paragraph [.text url [.link url]]]⟩
      else ⟨1, [.paragraph [.inlineCard url]]⟩ := by
  have hlink : leaves [] [.link url [.text url none]] = [.text url [.link url]] := by
    simp [leaves, walk, Inline.leaves, textLeaf, hurl, joinRuns, joinFront]
  have hcard : leaves [] [.autolink url url .url] = [.inlineCard url] := rfl
  rw [inlinesOf_shownAddress, hkind]
  split
  · exact document_paragraph hlink
  · exact document_paragraph hcard

end

def secureUrl (rest : String) : String :=
  "https://" ++ rest

theorem secureUrl_toList (rest : String) :
    (secureUrl rest).toList = secureScheme ++ ('/' :: ('/' :: rest.toList)) := by
  simp [secureUrl, secureScheme]

theorem secureUrl_ne_empty (rest : String) : secureUrl rest ≠ "" := by
  intro h
  have hlist := congrArg String.toList h
  rw [secureUrl_toList] at hlist
  cases hlist

theorem addressKind_secureUrl (rest : String) : addressKind (secureUrl rest) = .url := by
  rw [addressKind, secureUrl_toList]
  rfl

theorem isQuiet_secureUrl {rest : String} (h : ∀ c ∈ rest.toList, IsAddressChar c) :
    ∀ c ∈ (secureUrl rest).toList, IsQuiet c := by
  have hrest : ∀ c ∈ rest.toList, IsQuiet c := fun c hc => isQuiet_of_isAddressChar (h c hc)
  rw [secureUrl_toList]
  simp only [List.forall_mem_cons, List.forall_mem_append]
  exact ⟨isQuiet_secureScheme, by decide, by decide, hrest⟩

section
variable (e : Extensions) {rest : String} (h : ∀ c ∈ rest.toList, IsAddressChar c)
include h

theorem document_link :
    document (ofMarkdown e ("[" ++ secureUrl rest ++ "](" ++ secureUrl rest ++ ")")) =
      ⟨1, [.paragraph [.text (secureUrl rest) [.link (secureUrl rest)]]]⟩ := by
  have hquiet := isQuiet_secureUrl h
  have hne : (secureUrl rest).toList ≠ [] := by
    rw [secureUrl_toList]
    exact List.cons_ne_nil _ _
  have htext : ("[" ++ secureUrl rest ++ "](" ++ secureUrl rest ++ ")").toList =
      '[' :: ((secureUrl rest).toList ++ ']' :: '(' :: ((secureUrl rest).toList ++ [')'])) := by
    simp
  have hdraft := ofText_link e hquiet
  rw [← htext] at hdraft
  have hblocks := ofMarkdown_paragraph hdraft fun room =>
    readPassage_link e.options [] room hquiet hne rfl
  have hbyte := byteAt_first (c := '[') (b := openingBracket) rfl
    ((secureUrl rest).toList ++ ']' :: '(' :: ((secureUrl rest).toList ++ [')']))
  have hshown := document_shownAddress
    (LineTable.ofText ("[" ++ secureUrl rest ++ "](" ++ secureUrl rest ++ ")").toList) _
    (secureUrl_ne_empty rest) (addressKind_secureUrl rest)
  rw [String.ofList_toList] at hblocks
  rw [htext, if_pos hbyte, ← htext] at hshown
  rw [hblocks]
  exact hshown

theorem document_angle :
    document (ofMarkdown e ("<" ++ secureUrl rest ++ ">")) =
      ⟨1, [.paragraph [.inlineCard (secureUrl rest)]]⟩ := by
  have hquiet : ∀ c ∈ '/' :: rest.toList, IsQuiet c :=
    List.forall_mem_cons.2 ⟨by decide, fun c hc => isQuiet_of_isAddressChar (h c hc)⟩
  have hslash : ∀ c ∈ '/' :: '/' :: rest.toList, IsQuiet c :=
    List.forall_mem_cons.2 ⟨by decide, hquiet⟩
  have htext : ("<" ++ secureUrl rest ++ ">").toList =
      '<' :: (secureScheme ++ ('/' :: ('/' :: rest.toList) ++ ['>'])) := by
    simp [secureUrl, secureScheme]
  have hdraft := ofText_angle e hquiet
  rw [← htext] at hdraft
  have hblocks := ofMarkdown_paragraph hdraft fun room => readPassage_angle e.options [] room hslash rfl
  have hbyte := byteAt_first (c := '<') (b := 0x3C) rfl
    (secureScheme ++ ('/' :: ('/' :: rest.toList) ++ ['>']))
  have hno : ¬ (LineTable.ofText ("<" ++ secureUrl rest ++ ">").toList).byteAt 1 1 =
      some openingBracket := by
    rw [htext, hbyte]
    decide
  have hshown := document_shownAddress (LineTable.ofText ("<" ++ secureUrl rest ++ ">").toList) _
    (secureUrl_ne_empty rest) (addressKind_secureUrl rest)
  rw [if_neg hno] at hshown
  rw [← secureUrl_toList, String.ofList_toList] at hblocks
  rw [hblocks]
  exact hshown

end

/-- A link that shows its own address and the same address between angle brackets are told apart,
whatever the address and the extensions: the one stays text, the other becomes a card. -/
theorem document_writtenAddress (e : Extensions) (rest : String)
    (h : ∀ c ∈ rest.toList, IsAddressChar c) :
    document (ofMarkdown e ("[" ++ ("https://" ++ rest) ++ "](" ++ ("https://" ++ rest) ++ ")")) =
        ⟨1, [.paragraph [.text ("https://" ++ rest) [.link ("https://" ++ rest)]]]⟩ ∧
      document (ofMarkdown e ("<" ++ ("https://" ++ rest) ++ ">")) =
        ⟨1, [.paragraph [.inlineCard ("https://" ++ rest)]]⟩ :=
  ⟨document_link e h, document_angle e h⟩

theorem document_writtenAddress_www :
    (∀ c ∈ "www.é-1/w.".toList, IsAddressChar c) ∧
      document (ofMarkdown {} ("[" ++ ("https://" ++ "www.é-1/w.") ++ "](" ++
          ("https://" ++ "www.é-1/w.") ++ ")")) =
        ⟨1, [.paragraph [.text ("https://" ++ "www.é-1/w.")
          [.link ("https://" ++ "www.é-1/w.")]]]⟩ ∧
      document (ofMarkdown {} ("<" ++ ("https://" ++ "www.é-1/w.") ++ ">")) =
        ⟨1, [.paragraph [.inlineCard ("https://" ++ "www.é-1/w.")]]⟩ := by
  have hall : "www.é-1/w.".toList.all (fun c => decide (IsAddressChar c)) = true := by decide
  have hchars : ∀ c ∈ "www.é-1/w.".toList, IsAddressChar c := by
    simpa only [List.all_eq_true, decide_eq_true_eq] using hall
  exact ⟨hchars, document_writtenAddress {} _ hchars⟩

end MarkdownToAdf.Source
