import MarkdownToAdf.Markdown.Autolink
import MarkdownToAdf.Proofs.Text.Literal

set_option autoImplicit false

/-!
# What addresses are made of

An address is made of the characters that it is read from. No address goes beyond the end of a
line, so a line feed gets into one only by a reference.
-/
namespace MarkdownToAdf.Markdown
open Text

section
variable {p : Char → Bool} {text r : List Char}

theorem not_mem_takeWhile {c : Char} (h : p c = false) (text : List Char) :
    c ∉ text.takeWhile p := by
  intro hc
  have hp := List.all_eq_true.1 List.all_takeWhile c hc
  rw [h] at hp
  cases hp

theorem mem_of_dropWhile_eq {d : Char} (h : text.dropWhile p = d :: r) {c : Char} (hc : c ∈ r) :
    c ∈ text :=
  (List.dropWhile_suffix p).subset (h ▸ List.mem_cons_of_mem d hc)

theorem mem_of_mem_takeWhile {c : Char} (h : c ∈ text.takeWhile p) : c ∈ text :=
  (List.takeWhile_prefix p).subset h

end

theorem feed_not_mem_angleUri {r rest : List Char} {a : Address} (hr : '&' ∉ r)
    (h : angleUri? r = some (a, rest)) : '\n' ∉ a.label := by
  unfold angleUri? at h
  dsimp only at h
  split at h
  · rename_i r' hcolon
    split at h
    · split at h
      · cases h
        have hamp : '&' ∉ r.takeWhile isSchemeChar ++ ':' :: r'.takeWhile isUriChar := by
          rw [List.mem_append, List.mem_cons]
          rintro (hmem | heq | hmem)
          · exact hr (mem_of_mem_takeWhile hmem)
          · exact absurd heq (by decide)
          · exact hr (mem_of_dropWhile_eq hcolon (mem_of_mem_takeWhile hmem))
        rw [decodeReferences_of_not_mem hamp, List.mem_append, List.mem_cons]
        rintro (hmem | heq | hmem)
        · exact not_mem_takeWhile (by decide) r hmem
        · exact absurd heq (by decide)
        · exact not_mem_takeWhile (by decide) r' hmem
      · cases h
    · cases h
  · cases h

theorem feed_not_mem_angleEmail {r rest : List Char} {a : Address} (hr : '&' ∉ r)
    (h : angleEmail? r = some (a, rest)) : '\n' ∉ a.label := by
  unfold angleEmail? at h
  dsimp only at h
  split at h
  · rename_i r' hat
    split at h
    · split at h
      · cases h
        have hamp : '&' ∉ r.takeWhile isMailboxChar ++ '@' :: r'.takeWhile isHostText := by
          rw [List.mem_append, List.mem_cons]
          rintro (hmem | heq | hmem)
          · exact hr (mem_of_mem_takeWhile hmem)
          · exact absurd heq (by decide)
          · exact not_mem_takeWhile (by decide) r' hmem
        rw [decodeReferences_of_not_mem hamp, List.mem_append, List.mem_cons]
        rintro (hmem | heq | hmem)
        · exact not_mem_takeWhile (by decide) r hmem
        · exact absurd heq (by decide)
        · exact not_mem_takeWhile (by decide) r' hmem
      · cases h
    · cases h
  · cases h

theorem feed_not_mem_angleAddress {r rest : List Char} {a : Address} (hr : '&' ∉ r)
    (h : angleAddress? r = some (a, rest)) : '\n' ∉ a.label := by
  unfold angleAddress? at h
  split at h
  · rename_i huri
    cases h
    exact feed_not_mem_angleUri hr huri
  · exact feed_not_mem_angleEmail hr h

theorem trimTail_subset (fuel : Nat) (address : List Char) : trimTail fuel address ⊆ address := by
  fun_induction trimTail fuel address with
  | case1 => exact List.Subset.refl _
  | case2 => exact List.Subset.refl _
  | case3 fuel c r _ ih => exact List.subset_cons_of_subset c ih
  | case4 fuel r first letters before hbefore _ _ ih =>
    exact fun c hc => List.mem_cons_of_mem _ (mem_of_dropWhile_eq hbefore (ih hc))
  | case5 fuel r _ _ ih => exact List.subset_cons_of_subset _ ih
  | case6 fuel c r _ _ _ ih => exact List.subset_cons_of_subset c ih
  | case7 => exact List.Subset.refl _

theorem feed_not_mem_addressText (text : List Char) : '\n' ∉ addressText text := by
  unfold addressText
  intro hmem
  have hmem := trimTail_subset _ _ (List.mem_reverse.1 hmem)
  exact not_mem_takeWhile (by decide) text (List.mem_reverse.1 hmem)

theorem feed_not_mem_wwwAddress {before : Option Char} {text : List Char} {a : Address}
    (h : wwwAddress? before text = some a) : '\n' ∉ a.label := by
  unfold wwwAddress? at h
  dsimp only at h
  split at h
  · cases h
    exact feed_not_mem_addressText text
  · cases h

theorem feed_not_mem_schemeAddress {before text : List Char} {a : Address}
    (h : schemeAddress? before text = some a) : '\n' ∉ a.label := by
  unfold schemeAddress? at h
  dsimp only at h
  split at h
  · split at h
    · cases h
      refine fun hmem => (List.mem_append.1 hmem).elim (fun hscheme => ?_) ?_
      · exact not_mem_takeWhile (by decide) before (List.mem_reverse.1 hscheme)
      · exact feed_not_mem_addressText _
    · cases h
  · cases h

theorem hostAfter?_subset {xmpp : Bool} {text host : List Char} {dots : Nat}
    (h : hostAfter? xmpp text = some (host, dots)) : host ⊆ text := by
  fun_induction hostAfter? xmpp text generalizing host dots with
  | case1 =>
    cases h
    exact List.nil_subset _
  | case2 => cases h
  | case3 r _ hnext ih =>
    obtain ⟨⟨host', dots'⟩, hr, heq⟩ := Option.map_eq_some_iff.1 h
    cases heq
    exact List.cons_subset_cons _ (ih hr)
  | case4 =>
    cases h
    exact List.nil_subset _
  | case5 c r _ _ _ ih =>
    obtain ⟨⟨host', dots'⟩, hr, heq⟩ := Option.map_eq_some_iff.1 h
    cases heq
    exact List.cons_subset_cons _ (ih hr)
  | case6 =>
    cases h
    exact List.nil_subset _

theorem mem_mailAddress {before behind : List Char} {a : Address} {taken host : Nat}
    (h : mailAddress? before behind = some (a, taken, host)) :
    ∀ c ∈ a.label, c ∈ before ∨ c = '@' ∨ c ∈ behind := by
  unfold mailAddress? at h
  dsimp only at h
  split at h
  · cases h
  · split at h
    · cases h
    · rename_i host' dots hhost
      split at h
      · cases h
        intro c hc
        rcases List.mem_append.1 hc with hc | hc
        · exact .inl (List.mem_of_mem_take (List.mem_reverse.1 hc))
        · exact .inr ((List.mem_cons.1 hc).imp_right fun hc => hostAfter?_subset hhost hc)
      · cases h

end MarkdownToAdf.Markdown
