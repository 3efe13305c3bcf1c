import MarkdownToAdf.Markdown.Phrasing
import Mathlib.Tactic.SplitIfs

set_option autoImplicit false

/-!
# Room for references

Reading a passage looks at the room for expanding references in one place only, where a bracket
is closed. So if at the end there is still room for any of the definitions, no reference was ever
refused, and with more room the passage is read in the same way.
-/
namespace MarkdownToAdf.Markdown
open Text

def Scan.widen (extra : Nat) (s : Scan) : Scan :=
  { s with room := s.room + extra }

def Step.widen (extra : Nat) (t : Step) : Step :=
  { t with scan := t.scan.widen extra }

/-- Do all of the definitions fit in a room? -/
def Fit (definitions : List Definition) (room : Nat) : Prop :=
  ∀ d ∈ definitions, d.target.size ≤ room

instance (definitions : List Definition) (room : Nat) : Decidable (Fit definitions room) :=
  inferInstanceAs (Decidable (∀ d ∈ definitions, d.target.size ≤ room))

theorem Fit.mono {definitions : List Definition} {a b : Nat} (h : Fit definitions a) (hab : a ≤ b) :
    Fit definitions b := fun d hd => Nat.le_trans (h d hd) hab

section
variable (g : Setting) (extra : Nat) (s : Scan)

theorem widen_dropBracket : (s.widen extra).dropBracket = s.dropBracket.widen extra := by
  unfold Scan.dropBracket
  cases h : s.brackets <;> simp [Scan.widen, h]

theorem readCode_widen (r : List Char) :
    readCode (s.widen extra) r = (readCode s r).widen extra := by
  unfold readCode
  dsimp only
  split <;> rfl

theorem readBackslash_widen (r : List Char) :
    readBackslash (s.widen extra) r = (readBackslash s r).widen extra := by
  unfold readBackslash
  split
  · rfl
  · split <;> rfl
  · rfl

theorem readReference_widen (r : List Char) :
    readReference (s.widen extra) r = (readReference s r).widen extra := by
  unfold readReference
  split <;> rfl

theorem readAngle_widen (r : List Char) :
    readAngle g (s.widen extra) r = (readAngle g s r).widen extra := by
  unfold readAngle
  split
  · rfl
  · dsimp only [Scan.widen]
    split <;> rfl

theorem readWww_widen (r : List Char) :
    readWww (s.widen extra) r = (readWww s r).widen extra := by
  have haddress : (if (s.widen extra).inBrackets then none
      else wwwAddress? (s.widen extra).seen.head? ('w' :: r)) =
      if s.inBrackets then none else wwwAddress? s.seen.head? ('w' :: r) := rfl
  unfold readWww
  rw [haddress]
  split <;> rfl

theorem readColon_widen (r : List Char) :
    readColon (s.widen extra) r = (readColon s r).widen extra := by
  have haddress : (if (s.widen extra).inBrackets then none
      else schemeAddress? (s.widen extra).seen (':' :: r)) =
      if s.inBrackets then none else schemeAddress? s.seen (':' :: r) := rfl
  unfold readColon
  rw [haddress]
  split <;> rfl

theorem readBang_widen (r : List Char) :
    readBang g (s.widen extra) r = (readBang g s r).widen extra := by
  unfold readBang
  split
  · split <;> rfl
  · rfl

theorem referenceTarget?_widen (h : Fit g.definitions s.room) (b : Bracket) (r : List Char) :
    referenceTarget? g (s.widen extra) b r =
      (referenceTarget? g s b r).map fun (t, rest, room) => (t, rest, room + extra) := by
  have hroom : (s.widen extra).room = s.room + extra := rfl
  unfold referenceTarget?
  dsimp only
  split
  · rename_i t ht
    obtain ⟨label, -, hlookup⟩ := Option.bind_eq_some_iff.1 ht
    obtain ⟨d, hd, rfl⟩ := Option.map_eq_some_iff.1 hlookup
    have hsize := h d (List.mem_of_find?_eq_some hd)
    have hleft : s.room + extra - d.target.size = s.room - d.target.size + extra := by omega
    rw [hroom, if_neg (by omega), if_neg (by omega), Option.map_some, hleft]
  · rfl

def Scan.outside (s : Scan) : Scan :=
  { s with inBrackets := false }

def closeText (s : Scan) (r : List Char) : Step :=
  (s.outside.dropBracket.push (.char ']')).step (']' :: r) r

theorem closeBracket_eq (r : List Char) :
    closeBracket g s r = match s.brackets with
      | [] => closeText s r
      | b :: bs =>
        if !b.image && s.afterLink then closeText s r
        else match inlineTarget? r with
          | some (t, rest) => (closeLink s.outside b bs t).step (']' :: r) rest
          | none => match referenceTarget? g s.outside b r with
            | some (t, rest, room) =>
              (closeLink { s.outside with room := room } b bs t).step (']' :: r) rest
            | none => closeText s r := rfl

theorem closeText_widen (r : List Char) :
    closeText (s.widen extra) r = (closeText s r).widen extra := by
  have houtside : (s.widen extra).outside = s.outside.widen extra := rfl
  rw [closeText, houtside, widen_dropBracket]
  rfl

theorem closeBracket_widen (h : Fit g.definitions s.room) (r : List Char) :
    closeBracket g (s.widen extra) r = (closeBracket g s r).widen extra := by
  have hbrackets : (s.widen extra).brackets = s.brackets := rfl
  have hafter : (s.widen extra).afterLink = s.afterLink := rfl
  have houtside : (s.widen extra).outside = s.outside.widen extra := rfl
  have htarget (b : Bracket) := referenceTarget?_widen g extra s.outside h b r
  rw [closeBracket_eq, closeBracket_eq, hbrackets, hafter, houtside, closeText_widen]
  cases s.brackets with
  | nil => rfl
  | cons b bs =>
    simp only [htarget]
    by_cases hgiven : (!b.image && s.afterLink) = true
    · rw [if_pos hgiven, if_pos hgiven]
    · rw [if_neg hgiven, if_neg hgiven]
      cases inlineTarget? r with
      | some found => rfl
      | none => cases referenceTarget? g s.outside b r <;> rfl

theorem readNext_widen (h : Fit g.definitions s.room) (c : Char) (r : List Char) :
    readNext g (s.widen extra) c r = (readNext g s c r).widen extra := by
  unfold readNext
  split
  · rfl
  · exact readCode_widen extra s r
  · exact readBackslash_widen extra s r
  · exact readReference_widen extra s r
  · exact readAngle_widen g extra s r
  · rfl
  · exact closeBracket_widen g extra s h r
  · exact readBang_widen g extra s r
  · rfl
  · rfl
  · split_ifs
    · rfl
    · exact readColon_widen extra s r
    · exact readWww_widen extra s r
    · rfl

theorem room_dropBracket : s.dropBracket.room = s.room := by
  unfold Scan.dropBracket
  split <;> rfl

theorem room_readCode (r : List Char) : (readCode s r).scan.room = s.room := by
  unfold readCode
  dsimp only
  split <;> rfl

theorem room_readBackslash (r : List Char) : (readBackslash s r).scan.room = s.room := by
  unfold readBackslash
  split
  · rfl
  · split <;> rfl
  · rfl

theorem room_readReference (r : List Char) : (readReference s r).scan.room = s.room := by
  unfold readReference
  split <;> rfl

theorem room_readAngle (r : List Char) : (readAngle g s r).scan.room = s.room := by
  unfold readAngle
  split
  · rfl
  · dsimp only
    split <;> rfl

theorem room_readWww (r : List Char) : (readWww s r).scan.room = s.room := by
  unfold readWww
  split <;> rfl

theorem room_readColon (r : List Char) : (readColon s r).scan.room = s.room := by
  unfold readColon
  split <;> rfl

theorem room_readBang (r : List Char) : (readBang g s r).scan.room = s.room := by
  unfold readBang
  split
  · split <;> rfl
  · rfl

theorem room_closeText (r : List Char) : (closeText s r).scan.room = s.room :=
  room_dropBracket s.outside

theorem room_referenceTarget?_le {b : Bracket} {r rest : List Char} {t : Target} {room : Nat}
    (h : referenceTarget? g s b r = some (t, rest, room)) : room ≤ s.room := by
  unfold referenceTarget? at h
  dsimp only at h
  split at h
  · split at h
    · cases h
    · cases h
      exact Nat.sub_le _ _
  · cases h

theorem room_closeBracket_le (r : List Char) : (closeBracket g s r).scan.room ≤ s.room := by
  have htext := Nat.le_of_eq (room_closeText s r)
  rw [closeBracket_eq]
  split
  · exact htext
  · split
    · exact htext
    · split
      · exact Nat.le_refl _
      · split
        · rename_i htarget
          exact room_referenceTarget?_le g s.outside htarget
        · exact htext

/-- Only a closing bracket takes from the room. -/
theorem room_readNext_le (c : Char) (r : List Char) :
    (readNext g s c r).scan.room ≤ s.room := by
  unfold readNext
  split
  · exact Nat.le_refl _
  · exact Nat.le_of_eq (room_readCode s r)
  · exact Nat.le_of_eq (room_readBackslash s r)
  · exact Nat.le_of_eq (room_readReference s r)
  · exact Nat.le_of_eq (room_readAngle g s r)
  · exact Nat.le_refl _
  · exact room_closeBracket_le g s r
  · exact Nat.le_of_eq (room_readBang g s r)
  · exact Nat.le_refl _
  · exact Nat.le_refl _
  · split_ifs
    · exact Nat.le_refl _
    · exact Nat.le_of_eq (room_readColon s r)
    · exact Nat.le_of_eq (room_readWww s r)
    · exact Nat.le_refl _

theorem room_scanFrom_le (skip : Nat) (text : List Char) :
    (scanFrom g skip s text).room ≤ s.room := by
  induction text generalizing skip s with
  | nil => exact Nat.le_of_eq (by rw [scanFrom])
  | cons c r ih =>
    cases skip with
    | zero => exact Nat.le_trans (ih _ _) (room_readNext_le g s c r)
    | succ skip => exact ih s skip

theorem scanFrom_widen (skip : Nat) (text : List Char)
    (h : Fit g.definitions (scanFrom g skip s text).room) :
    scanFrom g skip (s.widen extra) text = (scanFrom g skip s text).widen extra := by
  induction text generalizing skip s with
  | nil => rw [scanFrom, scanFrom]
  | cons c r ih =>
    cases skip with
    | zero =>
      -- what fits in the room at the end fits in the room before this step
      have hroom : (scanFrom g 0 s (c :: r)).room ≤ s.room := room_scanFrom_le g s 0 (c :: r)
      have hstep := readNext_widen g extra s (h.mono hroom) c r
      rw [scanFrom] at h
      rw [scanFrom, scanFrom, hstep]
      exact ih _ _ h
    | succ skip => exact ih s skip h

end

section
variable (e : Options) (definitions : List Definition) (room extra : Nat) (p : Passage)

theorem room_readPassage_le : (readPassage e definitions room p).2 ≤ room :=
  room_scanFrom_le ⟨e, definitions, p⟩ { room := room } 0 (trimEnd p.text)

/-- A passage that leaves room for all definitions is read in the same way with more room. -/
theorem readPassage_add_room (h : Fit definitions (readPassage e definitions room p).2) :
    readPassage e definitions (room + extra) p =
      ((readPassage e definitions room p).1, (readPassage e definitions room p).2 + extra) := by
  have hscan := scanFrom_widen ⟨e, definitions, p⟩ extra { room := room } 0 (trimEnd p.text) h
  have hwiden : Scan.widen extra { room := room } = { room := room + extra } := rfl
  rw [hwiden] at hscan
  unfold readPassage
  rw [hscan]
  rfl

end

end MarkdownToAdf.Markdown
