import MarkdownToAdf.Markdown.Link

set_option autoImplicit false

/-!
# What readers leave

A reader answers with what is left of its text, and that is always the end of the text: nothing
is put back, and nothing is read out of order.
-/
namespace MarkdownToAdf.Markdown
open Text

theorem trimStart_suffix (text : List Char) : trimStart text <:+ text :=
  List.dropWhile_suffix _

theorem skipBlanks_suffix (text : List Char) : skipBlanks text <:+ text :=
  List.dropWhile_suffix _

theorem suffix_cons_of_suffix {a b : List Char} (h : a <:+ b) (c : Char) : a <:+ c :: b :=
  h.trans (List.suffix_cons c b)

theorem skipLineBlanks_suffix (text : List Char) : skipLineBlanks text <:+ text := by
  have hskip := skipBlanks_suffix text
  unfold skipLineBlanks
  split
  · rename_i r heq
    rw [heq] at hskip
    exact (suffix_cons_of_suffix (skipBlanks_suffix r) '\n').trans hskip
  · exact hskip

theorem nextLine?_suffix {text rest : List Char} (h : nextLine? text = some rest) :
    rest <:+ text := by
  have hskip := skipBlanks_suffix text
  unfold nextLine? at h
  split at h
  · rename_i r heq
    rw [heq] at hskip
    cases h
    exact (List.suffix_cons _ _).trans hskip
  · cases h
    exact List.nil_suffix
  · cases h

/-- What becomes of the text that was read does not change what is left. -/
theorem read_of_map {α β : Type} {f : α × List Char → β × List Char}
    {o : Option (α × List Char)} {d : β} {rest : List Char} (h : o.map f = some (d, rest))
    (hf : ∀ x, (f x).2 = x.2) : ∃ d', o = some (d', rest) := by
  obtain ⟨⟨d', rest'⟩, hread, heq⟩ := Option.map_eq_some_iff.1 h
  have hrest : rest' = rest := (hf (d', rest')).symm.trans (congrArg Prod.snd heq)
  exact ⟨d', hrest ▸ hread⟩

theorem angleDestination?_suffix {text d rest : List Char}
    (h : angleDestination? text = some (d, rest)) : rest <:+ text := by
  fun_induction angleDestination? text generalizing d with
  | case1 => cases h
  | case2 =>
    cases h
    exact List.suffix_cons _ _
  | case3 c r ih =>
    obtain ⟨d', hread⟩ := read_of_map h fun _ => rfl
    exact suffix_cons_of_suffix (suffix_cons_of_suffix (ih hread) c) _
  | case4 => cases h
  | case5 c r _ _ _ ih =>
    obtain ⟨d', hread⟩ := read_of_map h fun _ => rfl
    exact suffix_cons_of_suffix (ih hread) c
  | case6 => cases h

theorem bareDestination?_suffix {depth : Nat} {text d rest : List Char}
    (h : bareDestination? depth text = some (d, rest)) : rest <:+ text := by
  fun_induction bareDestination? depth text generalizing d with
  | case1 | case4 | case9 => cases h
  | case2 depth c r _ ih =>
    obtain ⟨d', hread⟩ := read_of_map h fun _ => rfl
    exact suffix_cons_of_suffix (suffix_cons_of_suffix (ih hread) c) _
  | case6 | case8 =>
    cases h
    exact List.suffix_refl _
  | case3 _ _ _ _ ih | case5 _ _ _ _ ih | case7 _ _ _ _ ih | case10 _ _ _ _ _ _ _ ih =>
    obtain ⟨d', hread⟩ := read_of_map h fun _ => rfl
    exact suffix_cons_of_suffix (ih hread) _

theorem destination?_suffix {text d rest : List Char} (h : destination? text = some (d, rest)) :
    rest <:+ text := by
  unfold destination? at h
  split at h
  · exact suffix_cons_of_suffix (angleDestination?_suffix h) _
  · split at h
    · cases h
    · exact bareDestination?_suffix h
  · cases h

theorem titleEnd?_suffix {close : Char} {escaped : Bool} {text rest : List Char}
    (h : titleEnd? close escaped text = some rest) : rest <:+ text := by
  fun_induction titleEnd? close escaped text with
  | case1 | case6 => cases h
  | case2 r _ hr ih =>
    cases h
    exact suffix_cons_of_suffix (ih hr) _
  | case3 | case4 =>
    cases h
    exact List.suffix_cons _ _
  | case5 _ _ _ _ ih | case7 _ _ _ _ _ ih => exact suffix_cons_of_suffix (ih h) _

theorem title?_suffix {text rest : List Char} (h : title? text = some rest) : rest <:+ text := by
  unfold title? at h
  split at h
  · exact suffix_cons_of_suffix (titleEnd?_suffix h) _
  · exact suffix_cons_of_suffix (titleEnd?_suffix h) _
  · exact suffix_cons_of_suffix (titleEnd?_suffix h) _
  · cases h

theorem labelFrom?_suffix {room : Nat} {text l rest : List Char}
    (h : labelFrom? room text = some (l, rest)) : rest <:+ text := by
  fun_induction labelFrom? room text generalizing l with
  | case1 | case2 | case4 | case7 | case8 => cases h
  | case3 room c r _ _ ih =>
    obtain ⟨l', hread⟩ := read_of_map h fun _ => rfl
    exact suffix_cons_of_suffix (suffix_cons_of_suffix (ih hread) c) _
  | case5 _ _ _ _ _ ih =>
    obtain ⟨l', hread⟩ := read_of_map h fun _ => rfl
    exact suffix_cons_of_suffix (ih hread) _
  | case6 =>
    cases h
    exact List.suffix_cons _ _
  | case9 _ _ _ _ _ _ _ ih =>
    obtain ⟨l', hread⟩ := read_of_map h fun _ => rfl
    exact suffix_cons_of_suffix (ih hread) _

theorem label?_suffix {text l rest : List Char} (h : label? text = some (l, rest)) :
    rest <:+ text := by
  unfold label? at h
  split at h
  · obtain ⟨l', hread⟩ := read_of_map h fun _ => rfl
    exact suffix_cons_of_suffix (labelFrom?_suffix hread) _
  · cases h

theorem getD_title?_suffix (gap : List Char) : (title? gap).getD gap <:+ gap := by
  cases h : title? gap with
  | none => exact List.suffix_refl _
  | some rest => exact title?_suffix h

theorem inlineTarget?_suffix {text rest : List Char} {t : Target}
    (h : inlineTarget? text = some (t, rest)) : rest <:+ text := by
  unfold inlineTarget? at h
  split at h
  · rename_i r
    split at h
    · cases h
    · rename_i written behind hdestination
      have hbehind : behind <:+ '(' :: r :=
        suffix_cons_of_suffix ((destination?_suffix hdestination).trans (trimStart_suffix r)) _
      dsimp only at h
      generalize hread : (if (trimStart behind).length = behind.length then trimStart behind
        else (title? (trimStart behind)).getD (trimStart behind)) = read at h
      have htitle : read <:+ behind := by
        rw [← hread]
        split
        · exact trimStart_suffix behind
        · exact (getD_title?_suffix _).trans (trimStart_suffix behind)
      split at h
      · rename_i closed heq
        cases h
        have hclosed : ')' :: rest <:+ read := heq ▸ trimStart_suffix read
        exact (((List.suffix_cons _ _).trans hclosed).trans htitle).trans hbehind
      · cases h
  · cases h

theorem definitionTitle?_suffix {behind t next : List Char}
    (h : definitionTitle? behind = some (t, next)) : next <:+ behind := by
  unfold definitionTitle? at h
  dsimp only at h
  split at h
  · rename_i titled heq
    cases h
    split at heq
    · cases heq
    · obtain ⟨rest, htitle, hnext⟩ := Option.bind_eq_some_iff.1 heq
      obtain ⟨next', hline, heq'⟩ := Option.map_eq_some_iff.1 hnext
      cases heq'
      exact ((nextLine?_suffix hline).trans (title?_suffix htitle)).trans
        (skipLineBlanks_suffix behind)
  · obtain ⟨next', hline, heq'⟩ := Option.map_eq_some_iff.1 h
    cases heq'
    exact nextLine?_suffix hline

theorem definition?_suffix {text next : List Char} {d : Definition}
    (h : definition? text = some (d, next)) : next <:+ text := by
  unfold definition? at h
  split at h
  · rename_i label r hlabel
    split at h
    · cases h
    · obtain ⟨⟨written, behind⟩, hdestination, hrest⟩ := Option.bind_eq_some_iff.1 h
      obtain ⟨⟨title, next'⟩, htitle, heq⟩ := Option.map_eq_some_iff.1 hrest
      cases heq
      have hbehind : behind <:+ r :=
        (destination?_suffix hdestination).trans (skipLineBlanks_suffix r)
      have hr : r <:+ text := (List.suffix_cons _ _).trans (label?_suffix hlabel)
      exact ((definitionTitle?_suffix htitle).trans hbehind).trans hr
  · cases h

theorem definitionsFrom_suffix (fuel : Nat) (text : List Char) :
    (definitionsFrom fuel text).2 <:+ text := by
  induction fuel generalizing text with
  | zero => exact List.suffix_refl _
  | succ fuel ih =>
    unfold definitionsFrom
    split
    · rename_i d next hd
      exact (ih next).trans (definition?_suffix hd)
    · exact List.suffix_refl _

theorem definitions_suffix (text : List Char) : (definitions text).2 <:+ text :=
  definitionsFrom_suffix _ text

end MarkdownToAdf.Markdown
