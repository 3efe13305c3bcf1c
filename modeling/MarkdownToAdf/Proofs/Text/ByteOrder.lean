import MarkdownToAdf.Proofs.Text.Utf8

set_option autoImplicit false

/-!
# The order of bytes

Texts that are ordered by their characters are ordered by their bytes in the same way: of two
characters the one with the smaller number has the smaller bytes, whatever follows them.
-/
namespace MarkdownToAdf.Text

theorem cons_lt_cons_of_toNat {a b : UInt8} {s t : List UInt8}
    (h : a.toNat < b.toNat ∨ a.toNat = b.toNat ∧ s < t) : a :: s < b :: t := by
  rw [List.cons_lt_cons_iff, UInt8.lt_iff_toNat_lt, ← UInt8.toNat_inj]
  exact h

/-- Longer characters begin with greater bytes, and characters of one length are compared byte by
byte as their numbers are. -/
theorem Encodes.append_lt {p q : List UInt8} {m n : Nat} (hp : Encodes p m) (hq : Encodes q n)
    (h : m < n) (s t : List UInt8) : p ++ s < q ++ t := by
  cases hp with
  | one ha =>
    cases hq with
    | _ => exact cons_lt_cons_of_toNat (.inl (by omega))
  | @two a b ha hb =>
    cases hq with
    | one _ => omega
    | @two a' b' ha' hb' =>
      have hbytes : a.toNat < a'.toNat ∨ a.toNat = a'.toNat ∧ b.toNat < b'.toNat := by omega
      refine cons_lt_cons_of_toNat (hbytes.imp_right (And.imp_right fun hsecond => ?_))
      exact cons_lt_cons_of_toNat (.inl hsecond)
    | three _ _ _ | four _ _ _ _ => exact cons_lt_cons_of_toNat (.inl (by omega))
  | @three a b c ha hb hc =>
    obtain ⟨hsecond, hlong⟩ := second_of_three ha.1 hb
    cases hq with
    | one _ | two _ _ => omega
    | @three a' b' c' ha' hb' hc' =>
      obtain ⟨hsecond', -⟩ := second_of_three ha'.1 hb'
      have hbytes : a.toNat < a'.toNat ∨ a.toNat = a'.toNat ∧
          (b.toNat < b'.toNat ∨ b.toNat = b'.toNat ∧ c.toNat < c'.toNat) := by
        clear hb hb' hlong
        omega
      refine cons_lt_cons_of_toNat (hbytes.imp_right (And.imp_right fun hrest => ?_))
      refine cons_lt_cons_of_toNat (hrest.imp_right (And.imp_right fun hthird => ?_))
      exact cons_lt_cons_of_toNat (.inl hthird)
    | four _ _ _ _ => exact cons_lt_cons_of_toNat (.inl (by omega))
  | @four a b c d ha hb hc hd =>
    obtain ⟨hsecond, hlong⟩ := second_of_four ha.1 hb
    cases hq with
    | one _ | two _ _ => omega
    | three ha' hb' _ =>
      obtain ⟨hsecond', -⟩ := second_of_three ha'.1 hb'
      omega
    | @four a' b' c' d' ha' hb' hc' hd' =>
      obtain ⟨hsecond', -⟩ := second_of_four ha'.1 hb'
      have hbytes : a.toNat < a'.toNat ∨ a.toNat = a'.toNat ∧
          (b.toNat < b'.toNat ∨ b.toNat = b'.toNat ∧
            (c.toNat < c'.toNat ∨ c.toNat = c'.toNat ∧ d.toNat < d'.toNat)) := by
        clear hb hb' hlong
        omega
      refine cons_lt_cons_of_toNat (hbytes.imp_right (And.imp_right fun hrest => ?_))
      refine cons_lt_cons_of_toNat (hrest.imp_right (And.imp_right fun hrest => ?_))
      refine cons_lt_cons_of_toNat (hrest.imp_right (And.imp_right fun hfourth => ?_))
      exact cons_lt_cons_of_toNat (.inl hfourth)

theorem Encodes.nil_lt_append {p : List UInt8} {n : Nat} (h : Encodes p n) (s : List UInt8) :
    [] < p ++ s := by
  cases h with
  | _ => exact List.nil_lt_cons _ _

theorem bytesOf_lt {s t : List Char} (h : s < t) : bytesOf s < bytesOf t := by
  induction h with
  | @nil d t =>
    rw [bytesOf_cons]
    exact (encodes_utf8EncodeChar d).nil_lt_append _
  | @rel c s d t hlt =>
    rw [bytesOf_cons, bytesOf_cons]
    exact (encodes_utf8EncodeChar c).append_lt (encodes_utf8EncodeChar d) hlt _ _
  | cons _ ih =>
    rw [bytesOf_cons, bytesOf_cons]
    exact List.append_left_lt ih

end MarkdownToAdf.Text
