import MarkdownToAdf.Text.Utf8
import Mathlib.Tactic.SplitIfs

set_option autoImplicit false

/-!
# Reading what was written

The bytes of a text are read back as that text, and bytes that are read as a text are its bytes.
In between stands the table of the byte sequences that are characters.
-/
namespace MarkdownToAdf.Text

/-- The byte sequences that are characters, and the numbers of these. -/
inductive Encodes : List UInt8 → Nat → Prop
  | one {a : UInt8} (ha : a.toNat < 0x80) : Encodes [a] a.toNat
  | two {a b : UInt8} (ha : 0xC2 ≤ a.toNat ∧ a.toNat ≤ 0xDF)
    (hb : 0x80 ≤ b.toNat ∧ b.toNat ≤ 0xBF) :
    Encodes [a, b] (64 * (a.toNat - 0xC0) + (b.toNat - 0x80))
  | three {a b c : UInt8} (ha : 0xE0 ≤ a.toNat ∧ a.toNat ≤ 0xEF)
    (hb : (if a.toNat = 0xE0 then 0xA0 else 0x80) ≤ b.toNat ∧
      b.toNat ≤ if a.toNat = 0xED then 0x9F else 0xBF)
    (hc : 0x80 ≤ c.toNat ∧ c.toNat ≤ 0xBF) :
    Encodes [a, b, c]
      (64 * (64 * (a.toNat - 0xE0) + (b.toNat - 0x80)) + (c.toNat - 0x80))
  | four {a b c d : UInt8} (ha : 0xF0 ≤ a.toNat ∧ a.toNat ≤ 0xF4)
    (hb : (if a.toNat = 0xF0 then 0x90 else 0x80) ≤ b.toNat ∧
      b.toNat ≤ if a.toNat = 0xF4 then 0x8F else 0xBF)
    (hc : 0x80 ≤ c.toNat ∧ c.toNat ≤ 0xBF) (hd : 0x80 ≤ d.toNat ∧ d.toNat ≤ 0xBF) :
    Encodes [a, b, c, d]
      (64 * (64 * (64 * (a.toNat - 0xF0) + (b.toNat - 0x80)) + (c.toNat - 0x80)) +
        (d.toNat - 0x80))

theorem toNat_ofNat_of_lt {n : Nat} (h : n < 256) : (UInt8.ofNat n).toNat = n := by
  rw [UInt8.toNat_ofNat']
  exact Nat.mod_eq_of_lt h

theorem val_ofNat {n : Nat} (h : n.isValidChar) : (Char.ofNat n).val.toNat = n := by
  rw [Char.ofNat, dif_pos h]
  rfl

theorem encodes_utf8EncodeChar (c : Char) : Encodes (String.utf8EncodeChar c) c.toNat := by
  have hvalid : c.val.toNat < 0xD800 ∨ 0xDFFF < c.val.toNat ∧ c.val.toNat < 0x110000 := c.valid
  unfold String.utf8EncodeChar Char.toNat
  dsimp only
  generalize c.val.toNat = n at hvalid
  split_ifs with hone htwo hthree
  · have ha : (UInt8.ofNat n).toNat = n := toNat_ofNat_of_lt (by omega)
    have hencodes := Encodes.one (a := UInt8.ofNat n) (by omega)
    rwa [ha] at hencodes
  · have ha : (UInt8.ofNat (n / 64 % 32 + 192)).toNat = n / 64 % 32 + 192 :=
      toNat_ofNat_of_lt (by omega)
    have hb : (UInt8.ofNat (n % 64 + 128)).toNat = n % 64 + 128 := toNat_ofNat_of_lt (by omega)
    have hencodes := Encodes.two (a := UInt8.ofNat (n / 64 % 32 + 192))
      (b := UInt8.ofNat (n % 64 + 128)) (by omega) (by omega)
    have hnumber : 64 * (n / 64 % 32 + 192 - 0xC0) + (n % 64 + 128 - 0x80) = n := by omega
    rwa [ha, hb, hnumber] at hencodes
  · have ha : (UInt8.ofNat (n / 4096 % 16 + 224)).toNat = n / 4096 % 16 + 224 :=
      toNat_ofNat_of_lt (by omega)
    have hb : (UInt8.ofNat (n / 64 % 64 + 128)).toNat = n / 64 % 64 + 128 :=
      toNat_ofNat_of_lt (by omega)
    have hc : (UInt8.ofNat (n % 64 + 128)).toNat = n % 64 + 128 := toNat_ofNat_of_lt (by omega)
    have hsecond : (if n / 4096 % 16 + 224 = 0xE0 then 0xA0 else 0x80) ≤ n / 64 % 64 + 128 ∧
        n / 64 % 64 + 128 ≤ if n / 4096 % 16 + 224 = 0xED then 0x9F else 0xBF := by
      split_ifs <;> omega
    have hencodes := Encodes.three (a := UInt8.ofNat (n / 4096 % 16 + 224))
      (b := UInt8.ofNat (n / 64 % 64 + 128)) (c := UInt8.ofNat (n % 64 + 128)) (by omega)
      (by rw [ha, hb]; exact hsecond) (by omega)
    have hnumber : 64 * (64 * (n / 4096 % 16 + 224 - 0xE0) + (n / 64 % 64 + 128 - 0x80)) +
        (n % 64 + 128 - 0x80) = n := by omega
    rwa [ha, hb, hc, hnumber] at hencodes
  · have ha : (UInt8.ofNat (n / 262144 % 8 + 240)).toNat = n / 262144 % 8 + 240 :=
      toNat_ofNat_of_lt (by omega)
    have hb : (UInt8.ofNat (n / 4096 % 64 + 128)).toNat = n / 4096 % 64 + 128 :=
      toNat_ofNat_of_lt (by omega)
    have hc : (UInt8.ofNat (n / 64 % 64 + 128)).toNat = n / 64 % 64 + 128 :=
      toNat_ofNat_of_lt (by omega)
    have hd : (UInt8.ofNat (n % 64 + 128)).toNat = n % 64 + 128 := toNat_ofNat_of_lt (by omega)
    have hsecond : (if n / 262144 % 8 + 240 = 0xF0 then 0x90 else 0x80) ≤ n / 4096 % 64 + 128 ∧
        n / 4096 % 64 + 128 ≤ if n / 262144 % 8 + 240 = 0xF4 then 0x8F else 0xBF := by
      split_ifs <;> omega
    have hencodes := Encodes.four (a := UInt8.ofNat (n / 262144 % 8 + 240))
      (b := UInt8.ofNat (n / 4096 % 64 + 128)) (c := UInt8.ofNat (n / 64 % 64 + 128))
      (d := UInt8.ofNat (n % 64 + 128)) (by omega) (by rw [ha, hb]; exact hsecond) (by omega)
      (by omega)
    have hnumber : 64 * (64 * (64 * (n / 262144 % 8 + 240 - 0xF0) + (n / 4096 % 64 + 128 - 0x80)) +
        (n / 64 % 64 + 128 - 0x80)) + (n % 64 + 128 - 0x80) = n := by omega
    rwa [ha, hb, hc, hd, hnumber] at hencodes

theorem ofNat_eq_of_toNat {a : UInt8} {n : Nat} (h : n = a.toNat) : UInt8.ofNat n = a := by
  rw [h, UInt8.ofNat_toNat]

theorem second_of_three {a b : Nat} (ha : 0xE0 ≤ a)
    (hb : (if a = 0xE0 then 0xA0 else 0x80) ≤ b ∧ b ≤ if a = 0xED then 0x9F else 0xBF) :
    (0x80 ≤ b ∧ b ≤ 0xBF) ∧ 0x20 ≤ 64 * (a - 0xE0) + (b - 0x80) := by
  split_ifs at hb <;> omega

theorem second_of_four {a b : Nat} (ha : 0xF0 ≤ a)
    (hb : (if a = 0xF0 then 0x90 else 0x80) ≤ b ∧ b ≤ if a = 0xF4 then 0x8F else 0xBF) :
    (0x80 ≤ b ∧ b ≤ 0xBF) ∧ 0x10 ≤ 64 * (a - 0xF0) + (b - 0x80) := by
  split_ifs at hb <;> omega

theorem Encodes.utf8EncodeChar_eq {bytes : List UInt8} {n : Nat} (h : Encodes bytes n) :
    String.utf8EncodeChar (Char.ofNat n) = bytes := by
  cases h with
  | @one a ha =>
    have hvalid : a.toNat.isValidChar := .inl (by omega)
    rw [String.utf8EncodeChar, val_ofNat hvalid]
    rw [if_pos (by omega), ofNat_eq_of_toNat rfl]
  | @two a b ha hb =>
    have hvalid : (64 * (a.toNat - 0xC0) + (b.toNat - 0x80)).isValidChar := .inl (by omega)
    rw [String.utf8EncodeChar, val_ofNat hvalid]
    rw [if_neg (by omega), if_pos (by omega), ofNat_eq_of_toNat (a := a) (by omega),
      ofNat_eq_of_toNat (a := b) (by omega)]
  | @three a b c ha hb hc =>
    obtain ⟨hsecond, hlong⟩ := second_of_three ha.1 hb
    have hvalid : (64 * (64 * (a.toNat - 0xE0) + (b.toNat - 0x80)) +
        (c.toNat - 0x80)).isValidChar := by
      unfold Nat.isValidChar
      split_ifs at hb <;> omega
    rw [String.utf8EncodeChar, val_ofNat hvalid]
    rw [if_neg (by omega), if_neg (by omega), if_pos (by omega), ofNat_eq_of_toNat (a := a) (by omega),
      ofNat_eq_of_toNat (a := b) (by omega), ofNat_eq_of_toNat (a := c) (by omega)]
  | @four a b c d ha hb hc hd =>
    obtain ⟨hsecond, hlong⟩ := second_of_four ha.1 hb
    have hvalid : (64 * (64 * (64 * (a.toNat - 0xF0) + (b.toNat - 0x80)) + (c.toNat - 0x80)) +
        (d.toNat - 0x80)).isValidChar := by
      unfold Nat.isValidChar
      split_ifs at hb <;> omega
    rw [String.utf8EncodeChar, val_ofNat hvalid]
    rw [if_neg (by omega), if_neg (by omega), if_neg (by omega), ofNat_eq_of_toNat (a := a) (by omega),
      ofNat_eq_of_toNat (a := b) (by omega), ofNat_eq_of_toNat (a := c) (by omega),
      ofNat_eq_of_toNat (a := d) (by omega)]

theorem lead?_two {a : Nat} (ha : 0xC2 ≤ a ∧ a ≤ 0xDF) :
    lead? a = some ⟨a - 0xC0, 0x80, 0xBF, 0⟩ := by
  rw [lead?, if_pos ha]

theorem lead?_three {a : Nat} (ha : 0xE0 ≤ a ∧ a ≤ 0xEF) :
    lead? a = some ⟨a - 0xE0, if a = 0xE0 then 0xA0 else 0x80,
      if a = 0xED then 0x9F else 0xBF, 1⟩ := by
  unfold lead?
  split_ifs <;> first | omega | simp_all

theorem lead?_four {a : Nat} (ha : 0xF0 ≤ a ∧ a ≤ 0xF4) :
    lead? a = some ⟨a - 0xF0, if a = 0xF0 then 0x90 else 0x80,
      if a = 0xF4 then 0x8F else 0xBF, 2⟩ := by
  unfold lead?
  split_ifs <;> first | omega | simp_all

theorem lead?_cases {a : Nat} {o : OpenCharacter} (h : lead? a = some o) :
    ((0xC2 ≤ a ∧ a ≤ 0xDF) ∧ o = ⟨a - 0xC0, 0x80, 0xBF, 0⟩) ∨
      ((0xE0 ≤ a ∧ a ≤ 0xEF) ∧ o = ⟨a - 0xE0, if a = 0xE0 then 0xA0 else 0x80,
        if a = 0xED then 0x9F else 0xBF, 1⟩) ∨
      ((0xF0 ≤ a ∧ a ≤ 0xF4) ∧ o = ⟨a - 0xF0, if a = 0xF0 then 0x90 else 0x80,
        if a = 0xF4 then 0x8F else 0xBF, 2⟩) := by
  have hrange : 0xC2 ≤ a ∧ a ≤ 0xDF ∨ 0xE0 ≤ a ∧ a ≤ 0xEF ∨ 0xF0 ≤ a ∧ a ≤ 0xF4 := by
    unfold lead? at h
    split_ifs at h <;> omega
  rcases hrange with htwo | hthree | hfour
  · rw [lead?_two htwo] at h
    exact .inl ⟨htwo, (Option.some.inj h).symm⟩
  · rw [lead?_three hthree] at h
    exact .inr (.inl ⟨hthree, (Option.some.inj h).symm⟩)
  · rw [lead?_four hfour] at h
    exact .inr (.inr ⟨hfour, (Option.some.inj h).symm⟩)

section
variable {o : OpenCharacter} {a : UInt8} (r : List UInt8)

theorem charactersFrom_one (ha : a.toNat < 0x80) :
    charactersFrom none (a :: r) = some (Char.ofNat a.toNat) :: charactersFrom none r := by
  rw [charactersFrom, readByte, readFirst, if_pos ha]
  rfl

theorem charactersFrom_lead (ha : 0x80 ≤ a.toNat) (hlead : lead? a.toNat = some o) :
    charactersFrom none (a :: r) = charactersFrom (some o) r := by
  rw [charactersFrom, readByte, readFirst, if_neg (Nat.not_lt.2 ha), hlead]
  rfl

theorem charactersFrom_stray (ha : 0x80 ≤ a.toNat) (hlead : lead? a.toNat = none) :
    charactersFrom none (a :: r) = none :: charactersFrom none r := by
  rw [charactersFrom, readByte, readFirst, if_neg (Nat.not_lt.2 ha), hlead]
  rfl

theorem charactersFrom_next {k : Nat} (ha : o.low ≤ a.toNat ∧ a.toNat ≤ o.high)
    (hmore : o.more = k + 1) :
    charactersFrom (some o) (a :: r) =
      charactersFrom (some ⟨64 * o.value + (a.toNat - 0x80), 0x80, 0xBF, k⟩) r := by
  rw [charactersFrom, readByte]
  simp only [if_pos ha, hmore]
  rfl

theorem charactersFrom_last (ha : o.low ≤ a.toNat ∧ a.toNat ≤ o.high) (hmore : o.more = 0) :
    charactersFrom (some o) (a :: r) =
      some (Char.ofNat (64 * o.value + (a.toNat - 0x80))) :: charactersFrom none r := by
  rw [charactersFrom, readByte]
  simp only [if_pos ha, hmore]
  rfl

theorem charactersFrom_broken (ha : ¬ (o.low ≤ a.toNat ∧ a.toNat ≤ o.high)) :
    (charactersFrom (some o) (a :: r)).head? = some none := by
  rw [charactersFrom, readByte]
  simp only [if_neg ha]
  rfl

end

theorem Encodes.charactersFrom {bytes : List UInt8} {n : Nat} (h : Encodes bytes n)
    (r : List UInt8) :
    charactersFrom none (bytes ++ r) = some (Char.ofNat n) :: Text.charactersFrom none r := by
  cases h with
  | one ha => exact charactersFrom_one r ha
  | @two a b ha hb =>
    have hlead := charactersFrom_lead (b :: r) (by omega) (lead?_two ha)
    rw [List.cons_append, List.singleton_append, hlead]
    exact charactersFrom_last r hb rfl
  | @three a b c ha hb hc =>
    have hlead := charactersFrom_lead (b :: c :: r) (by omega) (lead?_three ha)
    rw [List.cons_append, List.cons_append, List.singleton_append, hlead,
      charactersFrom_next (c :: r) hb rfl]
    exact charactersFrom_last r hc rfl
  | @four a b c d ha hb hc hd =>
    have hlead := charactersFrom_lead (b :: c :: d :: r) (by omega) (lead?_four ha)
    rw [List.cons_append, List.cons_append, List.cons_append, List.singleton_append, hlead,
      charactersFrom_next (c :: d :: r) hb rfl, charactersFrom_next (d :: r) hc rfl]
    exact charactersFrom_last r hd rfl

/-- The bytes that have been read of an open character. -/
inductive Opens : List UInt8 → OpenCharacter → Prop
  | lead {a : UInt8} {o : OpenCharacter} (h : lead? a.toNat = some o) : Opens [a] o
  | next {bytes : List UInt8} {o : OpenCharacter} {a : UInt8} {k : Nat} (h : Opens bytes o)
    (ha : o.low ≤ a.toNat ∧ a.toNat ≤ o.high) (hmore : o.more = k + 1) :
    Opens (bytes ++ [a]) ⟨64 * o.value + (a.toNat - 0x80), 0x80, 0xBF, k⟩

theorem Opens.length_bounds {bytes : List UInt8} {o : OpenCharacter} (h : Opens bytes o) :
    1 ≤ bytes.length ∧ o.more + bytes.length ≤ 3 := by
  induction h with
  | lead hlead => rcases lead?_cases hlead with ⟨-, rfl⟩ | ⟨-, rfl⟩ | ⟨-, rfl⟩ <;> simp
  | next h _ hmore ih =>
    rw [List.length_append, List.length_singleton]
    dsimp only
    omega

theorem Opens.encodes {bytes : List UInt8} {o : OpenCharacter} {a : UInt8} (h : Opens bytes o)
    (ha : o.low ≤ a.toNat ∧ a.toNat ≤ o.high) (hmore : o.more = 0) :
    Encodes (bytes ++ [a]) (64 * o.value + (a.toNat - 0x80)) := by
  cases h with
  | lead hlead =>
    rcases lead?_cases hlead with ⟨hrange, rfl⟩ | ⟨-, rfl⟩ | ⟨-, rfl⟩
    · exact .two hrange ha
    · cases hmore
    · cases hmore
  | next h hsecond hk =>
    subst hmore
    cases h with
    | lead hlead =>
      rcases lead?_cases hlead with ⟨-, rfl⟩ | ⟨hrange, rfl⟩ | ⟨-, rfl⟩
      · cases hk
      · exact .three hrange hsecond ha
      · cases hk
    | next h hthird hk' =>
      subst hk
      cases h with
      | lead hlead =>
        rcases lead?_cases hlead with ⟨-, rfl⟩ | ⟨-, rfl⟩ | ⟨hrange, rfl⟩
        · cases hk'
        · cases hk'
        · exact .four hrange hthird hsecond ha
      | next h _ hk'' =>
        have hlength := h.length_bounds
        dsimp only at hk'
        omega

theorem bytesOf_cons (c : Char) (text : List Char) :
    bytesOf (c :: text) = String.utf8EncodeChar c ++ bytesOf text :=
  List.flatMap_cons

theorem charactersFrom_bytesOf (text : List Char) :
    charactersFrom none (bytesOf text) = text.map some := by
  induction text with
  | nil => rfl
  | cons c r ih =>
    rw [bytesOf_cons, (encodes_utf8EncodeChar c).charactersFrom, ih, Char.ofNat_toNat]
    rfl

theorem bytesOf_of_encodes {bytes : List UInt8} {n : Nat} (h : Encodes bytes n) {r : List UInt8}
    (hr : ∀ text, charactersFrom none r = text.map some → bytesOf text = r) :
    ∀ text, some (Char.ofNat n) :: charactersFrom none r = text.map some →
      bytesOf text = bytes ++ r := by
  intro text htext
  cases text with
  | nil => cases htext
  | cons c text =>
    obtain ⟨hc, hrest⟩ := List.cons.inj htext
    rw [bytesOf_cons, ← Option.some.inj hc, h.utf8EncodeChar_eq, hr text hrest]

theorem bytesOf_of_charactersFrom (bytes : List UInt8) :
    (∀ text, charactersFrom none bytes = text.map some → bytesOf text = bytes) ∧
      ∀ read o, Opens read o → ∀ text, charactersFrom (some o) bytes = text.map some →
        bytesOf text = read ++ bytes := by
  -- both at once, because a character is opened in the one case and completed in the other
  induction bytes with
  | nil =>
    constructor
    · intro text htext
      rw [List.map_eq_nil_iff.1 htext.symm]
      rfl
    · intro read o _ text htext
      cases text <;> cases htext
  | cons a r ih =>
    obtain ⟨hnone, hsome⟩ := ih
    constructor
    · intro text htext
      by_cases ha : a.toNat < 0x80
      · rw [charactersFrom_one r ha] at htext
        exact bytesOf_of_encodes (.one ha) hnone text htext
      · cases hlead : lead? a.toNat with
        | none =>
          rw [charactersFrom_stray r (Nat.not_lt.1 ha) hlead] at htext
          cases text <;> cases htext
        | some o =>
          rw [charactersFrom_lead r (Nat.not_lt.1 ha) hlead] at htext
          exact hsome [a] o (.lead hlead) text htext
    · intro read o hread text htext
      by_cases ha : o.low ≤ a.toNat ∧ a.toNat ≤ o.high
      · cases hmore : o.more with
        | zero =>
          rw [charactersFrom_last r ha hmore] at htext
          have hbytes := bytesOf_of_encodes (hread.encodes ha hmore) hnone text htext
          rw [hbytes, List.append_assoc, List.singleton_append]
        | succ k =>
          rw [charactersFrom_next r ha hmore] at htext
          rw [hsome _ _ (hread.next ha hmore) text htext, List.append_assoc, List.singleton_append]
      · have hbroken := charactersFrom_broken r ha
        rw [htext] at hbroken
        cases text <;> cases hbroken

theorem mapM_id_eq_some {α : Type} (found : List (Option α)) (l : List α) :
    found.mapM id = some l ↔ found = l.map some := by
  induction found generalizing l with
  | nil => cases l <;> simp
  | cons a r ih =>
    cases a with
    | none => cases l <;> simp
    | some b =>
      cases l with
      | nil => simp [Option.bind_eq_some_iff]
      | cons c l =>
        simp only [List.mapM_cons, id_eq, Option.bind_eq_bind, Option.bind_some, ih,
          Option.bind_eq_some_iff, List.map_cons, List.cons.injEq, Option.some.injEq]
        constructor
        · rintro ⟨_, hr, ⟨⟩⟩
          exact ⟨rfl, hr⟩
        · rintro ⟨rfl, hr⟩
          exact ⟨l, hr, rfl⟩

/-- Bytes are read as a text exactly if they are the bytes of that text. -/
theorem decodeText?_eq_some_iff (bytes : List UInt8) (text : String) :
    decodeText? bytes = some text ↔ bytesOf text.toList = bytes := by
  have hread : decodeText? bytes = some text ↔
      charactersFrom none bytes = text.toList.map some := by
    rw [decodeText?, Option.map_eq_some_iff, ← mapM_id_eq_some]
    constructor
    · rintro ⟨l, hl, rfl⟩
      rw [String.toList_ofList]
      exact hl
    · intro h
      exact ⟨text.toList, h, String.ofList_toList⟩
  rw [hread]
  constructor
  · exact (bytesOf_of_charactersFrom bytes).1 text.toList
  · rintro rfl
    exact charactersFrom_bytesOf text.toList

end MarkdownToAdf.Text
