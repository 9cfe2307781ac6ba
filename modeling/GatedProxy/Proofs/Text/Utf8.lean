import GatedProxy.Text.Basic

namespace GatedProxy.Text

-- A character in one of its four forms. The first byte tells the length, so that no longer form
-- begins with a shorter one.
inductive Spelled (c : Char) : Bytes → Prop where
  | one (lead : a.toNat < 128) (same : scalar1 a = c) : Spelled c [a]
  | two (lead : 128 ≤ a.toNat) (same : scalar2 a b = c) : Spelled c [a, b]
  | three (lead : 224 ≤ a.toNat) (same : scalar3 a b d = c) : Spelled c [a, b, d]
  | four (lead : 240 ≤ a.toNat) (same : scalar4 a b d e = c) : Spelled c [a, b, d, e]

theorem ofNat_eq_of_val {c : Char} {n : Nat} (same : n = c.val.toNat) : Char.ofNat n = c := by
  rw [same]
  exact Char.ofNat_toNat c

theorem spelled (c : Char) : Spelled c (String.utf8EncodeChar c) := by
  have bound : c.val.toNat < 0x110000 := by
    rcases c.valid with low | ⟨_, high⟩
    · exact Nat.lt_trans low (by decide)
    · exact high
  unfold String.utf8EncodeChar
  dsimp only
  split
  · refine .one ?_ (ofNat_eq_of_val ?_) <;> simp only [UInt8.toNat_ofNat'] <;> omega
  · split
    · refine .two ?_ (ofNat_eq_of_val ?_) <;> simp only [UInt8.toNat_ofNat'] <;> omega
    · split
      · refine .three ?_ (ofNat_eq_of_val ?_) <;> simp only [UInt8.toNat_ofNat'] <;> omega
      · refine .four ?_ (ofNat_eq_of_val ?_) <;> simp only [UInt8.toNat_ofNat'] <;> omega

theorem not_two {x : Char} {a b : UInt8} (lead : 224 ≤ a.toNat) :
    String.utf8EncodeChar x ≠ [a, b] := by
  intro written
  unfold String.utf8EncodeChar at written
  dsimp only at written
  split at written
  · cases written
  · split at written
    · cases written
      rw [UInt8.toNat_ofNat'] at lead
      omega
    · split at written <;> cases written

theorem not_three {x : Char} {a b d : UInt8} (lead : 240 ≤ a.toNat) :
    String.utf8EncodeChar x ≠ [a, b, d] := by
  intro written
  unfold String.utf8EncodeChar at written
  dsimp only at written
  split at written
  · cases written
  · split at written
    · cases written
    · split at written
      · cases written
        rw [UInt8.toNat_ofNat'] at lead
        omega
      · cases written

theorem not_ascii {a : UInt8} (lead : 128 ≤ a.toNat) : ¬ a < 0x80 := by
  intro ascii
  exact Nat.not_lt.mpr lead (UInt8.lt_iff_toNat_lt.mp ascii)

theorem ofUtf8?_char (c : Char) (bytes : Bytes) :
    ofUtf8? (String.utf8EncodeChar c ++ bytes) = (ofUtf8? bytes).map (c :: ·) := by
  have form := spelled c
  generalize written : String.utf8EncodeChar c = word at form ⊢
  rw [ofUtf8?.eq_def]
  cases form with
  | one lead same =>
    have ascii := UInt8.lt_iff_toNat_lt.mpr (show _ < (0x80 : UInt8).toNat from lead)
    simp only [List.singleton_append, if_pos ascii, same]
  | two lead same =>
    simp only [List.cons_append, List.nil_append, if_neg (not_ascii lead), same, written, if_pos]
  | three lead same =>
    have wide := not_ascii (Nat.le_trans (by decide) lead)
    simp only [List.cons_append, List.nil_append, if_neg wide, if_neg (not_two lead), same,
      written, if_pos]
  | four lead same =>
    have wide := not_ascii (Nat.le_trans (by decide) lead)
    have two := Nat.le_trans (by decide : 224 ≤ 240) lead
    simp only [List.cons_append, List.nil_append, if_neg wide, if_neg (not_two two),
      if_neg (not_three lead), same, written, if_pos]

theorem utf8_cons (c : Char) (t : Text) :
    utf8 (c :: t) = String.utf8EncodeChar c ++ utf8 t := List.flatMap_cons

theorem utf8_append (s t : Text) : utf8 (s ++ t) = utf8 s ++ utf8 t := List.flatMap_append

theorem ofUtf8?_append (t : Text) (bytes : Bytes) :
    ofUtf8? (utf8 t ++ bytes) = (ofUtf8? bytes).map (t ++ ·) := by
  induction t with
  | nil => exact Option.map_id'.symm
  | cons c t ih =>
    rw [utf8_cons, List.append_assoc, ofUtf8?_char, ih, Option.map_map]
    rfl

theorem utf8_roundtrip (t : Text) : ofUtf8? (utf8 t) = some t := by
  simpa [ofUtf8?] using ofUtf8?_append t []

theorem utf8_injective {s t : Text} (same : utf8 s = utf8 t) : s = t := by
  have read := utf8_roundtrip s
  rw [same, utf8_roundtrip] at read
  exact (Option.some.inj read).symm

theorem utf8_scalar1 {a : UInt8} (ascii : a < 0x80) :
    String.utf8EncodeChar (scalar1 a) = [a] := by
  have low : a.toNat < 128 := UInt8.lt_iff_toNat_lt.mp ascii
  have valid : a.toNat.isValidChar := .inl (Nat.lt_trans low (by decide))
  have value : (scalar1 a).val.toNat = a.toNat := by
    rw [scalar1, Char.ofNat, dif_pos valid]
    rfl
  unfold String.utf8EncodeChar
  simp only [value, if_pos (Nat.le_of_lt_succ low), UInt8.ofNat_toNat]

-- Reading checks what it has read by writing it again, so it follows the cases of the reader.
theorem utf8_canonical {bytes : Bytes} {t : Text} (read : ofUtf8? bytes = some t) :
    bytes = utf8 t := by
  induction bytes using ofUtf8?.induct generalizing t with
  | case1 =>
    cases read
    rfl
  | case2 a rest ascii ih =>
    rw [ofUtf8?.eq_def] at read
    simp only [if_pos ascii] at read
    obtain ⟨later, readLater, rfl⟩ := Option.map_eq_some_iff.1 read
    rw [utf8_cons, utf8_scalar1 ascii, ← ih readLater, List.singleton_append]
  | case4 a wide b rest two ih =>
    rw [ofUtf8?.eq_def] at read
    simp only [if_neg wide, if_pos two] at read
    obtain ⟨later, readLater, rfl⟩ := Option.map_eq_some_iff.1 read
    rw [utf8_cons, two, ← ih readLater]
    rfl
  | case6 a wide b notTwo c rest three ih =>
    rw [ofUtf8?.eq_def] at read
    simp only [if_neg wide, if_neg notTwo, if_pos three] at read
    obtain ⟨later, readLater, rfl⟩ := Option.map_eq_some_iff.1 read
    rw [utf8_cons, three, ← ih readLater]
    rfl
  | case8 a wide b notTwo c notThree d rest four ih =>
    rw [ofUtf8?.eq_def] at read
    simp only [if_neg wide, if_neg notTwo, if_neg notThree, if_pos four] at read
    obtain ⟨later, readLater, rfl⟩ := Option.map_eq_some_iff.1 read
    rw [utf8_cons, four, ← ih readLater]
    rfl
  | case3 a wide => simp [ofUtf8?.eq_def, wide] at read
  | case5 a wide b notTwo => simp [ofUtf8?.eq_def, wide, notTwo] at read
  | case7 a wide b notTwo c notThree => simp [ofUtf8?.eq_def, wide, notTwo, notThree] at read
  | case9 a wide b notTwo c notThree d rest notFour =>
    rw [ofUtf8?.eq_def] at read
    simp only [if_neg wide, if_neg notTwo, if_neg notThree, if_neg notFour] at read
    cases read

theorem utf8_exact {bytes : Bytes} {t : Text} : ofUtf8? bytes = some t ↔ bytes = utf8 t := by
  constructor
  · exact utf8_canonical
  · intro written
    rw [written]
    exact utf8_roundtrip t

theorem utf8_prefix {s t : Text} : utf8 s <+: utf8 t ↔ s <+: t := by
  constructor
  · rintro ⟨bytes, whole⟩
    have read := ofUtf8?_append s bytes
    rw [whole, utf8_roundtrip] at read
    obtain ⟨rest, _, joined⟩ := Option.map_eq_some_iff.1 read.symm
    exact ⟨rest, joined⟩
  · rintro ⟨rest, rfl⟩
    exact ⟨utf8 rest, (utf8_append s rest).symm⟩

def lowered (b : UInt8) : UInt8 := if 0x41 ≤ b ∧ b ≤ 0x5a then b + 0x20 else b

theorem lowered_wide {b : UInt8} (wide : 128 ≤ b.toNat) : lowered b = b := by
  refine if_neg ?_
  rintro ⟨_, high⟩
  have bound : b.toNat ≤ 90 := UInt8.le_iff_toNat_le.mp high
  omega

theorem ascii_of_lowered {b : UInt8} (ascii : lowered b < 0x80) : b < 0x80 := by
  rcases Nat.lt_or_ge b.toNat 128 with low | wide
  · exact UInt8.lt_iff_toNat_lt.mpr low
  · rw [lowered_wide wide] at ascii
    exact ascii

theorem utf8EncodeChar_wide {c : Char} (wide : 128 ≤ c.toNat) :
    ∀ b ∈ String.utf8EncodeChar c, 128 ≤ b.toNat := by
  have value : 128 ≤ c.val.toNat := wide
  unfold String.utf8EncodeChar
  dsimp only
  rw [if_neg (by omega)]
  split
  · simp only [List.forall_mem_cons, UInt8.toNat_ofNat']
    exact ⟨by omega, by omega, nofun⟩
  · split
    · simp only [List.forall_mem_cons, UInt8.toNat_ofNat']
      exact ⟨by omega, by omega, by omega, nofun⟩
    · simp only [List.forall_mem_cons, UInt8.toNat_ofNat']
      exact ⟨by omega, by omega, by omega, by omega, nofun⟩

theorem toLower_wide {c : Char} (wide : 128 ≤ c.toNat) : c.toLower = c := by
  refine dif_neg ?_
  rintro ⟨_, high⟩
  have bound : c.toNat ≤ 90 := UInt32.le_iff_toNat_le.mp high
  omega

theorem lowered_ascii : ∀ n < 128, (String.utf8EncodeChar (Char.ofNat n)).map lowered =
    String.utf8EncodeChar (Char.ofNat n).toLower := by decide +kernel

theorem lowered_char (c : Char) :
    (String.utf8EncodeChar c).map lowered = String.utf8EncodeChar c.toLower := by
  by_cases ascii : c.toNat < 128
  · have small := lowered_ascii c.toNat ascii
    rw [Char.ofNat_toNat] at small
    exact small
  · have wide := utf8EncodeChar_wide (Nat.le_of_not_lt ascii)
    rw [toLower_wide (Nat.le_of_not_lt ascii)]
    exact (List.map_congr_left fun b member => lowered_wide (wide b member)).trans (List.map_id' _)

theorem utf8_lowered (t : Text) : (utf8 t).map lowered = utf8 (t.map Char.toLower) := by
  induction t with
  | nil => rfl
  | cons c t ih => rw [utf8_cons, List.map_append, lowered_char, ih, List.map_cons, utf8_cons]

theorem utf8_scalars {bytes : Bytes} (ascii : ∀ b ∈ bytes, b < 0x80) :
    utf8 (bytes.map scalar1) = bytes := by
  induction bytes with
  | nil => rfl
  | cons b bytes ih =>
    obtain ⟨first, later⟩ := List.forall_mem_cons.1 ascii
    rw [List.map_cons, utf8_cons, utf8_scalar1 first, ih later, List.singleton_append]

theorem afterAnyCase?_exact {lead t rest : Text} :
    afterAnyCase? lead t = some rest ↔
      ∃ name, t = name ++ rest ∧ name.map Char.toLower = lead.map Char.toLower := by
  induction lead generalizing t with
  | nil => simp [afterAnyCase?]
  | cons a lead ih =>
    cases t with
    | nil => simp [afterAnyCase?]
    | cons c t =>
      rw [afterAnyCase?]
      constructor
      · intro cut
        split at cut
        · rename_i same
          obtain ⟨name, rfl, equal⟩ := ih.mp cut
          exact ⟨c :: name, rfl, by rw [List.map_cons, List.map_cons, same, equal]⟩
        · cases cut
      · rintro ⟨name, whole, equal⟩
        cases name with
        | nil => cases equal
        | cons d name =>
          obtain ⟨rfl, rfl⟩ := List.cons.inj whole
          obtain ⟨same, later⟩ := List.cons.inj equal
          rw [if_pos same.symm]
          exact ih.mpr ⟨name, rfl, later⟩

-- A text is cut after so many bytes where a character ends there.
theorem splitBytes?_exact {n : Nat} {t before after : Text} :
    splitBytes? n t = some (before, after) ↔ t = before ++ after ∧ (utf8 before).length = n := by
  have cost (c : Char) (s : Text) : (utf8 (c :: s)).length = c.utf8Size + (utf8 s).length := by
    rw [utf8_cons, List.length_append, String.length_utf8EncodeChar]
  induction n, t using splitBytes?.induct generalizing before with
  | case1 t =>
    rw [splitBytes?]
    constructor
    · rintro ⟨⟩
      exact ⟨rfl, rfl⟩
    · rintro ⟨rfl, none⟩
      cases before with
      | nil => rfl
      | cons c before =>
        have size := c.utf8Size_pos
        rw [cost] at none
        omega
  | case2 n =>
    constructor
    · intro cut
      cases cut
    · rintro ⟨whole, size⟩
      obtain ⟨rfl, rfl⟩ := List.append_eq_nil_iff.1 whole.symm
      cases size
  | case3 n c rest fits ih =>
    rw [splitBytes?, if_pos fits]
    constructor
    · intro cut
      obtain ⟨⟨front, back⟩, found, equal⟩ := Option.map_eq_some_iff.1 cut
      cases equal
      obtain ⟨rfl, size⟩ := ih.mp found
      refine ⟨rfl, ?_⟩
      rw [cost, size]
      omega
    · rintro ⟨whole, size⟩
      cases before with
      | nil => cases size
      | cons d before =>
        obtain ⟨rfl, rfl⟩ := List.cons.inj whole
        rw [cost] at size
        rw [ih.mpr ⟨rfl, by omega⟩, Option.map_some]
  | case4 n c rest wide =>
    rw [splitBytes?, if_neg wide]
    refine iff_of_false nofun ?_
    rintro ⟨whole, size⟩
    cases before with
    | nil => cases size
    | cons d before =>
      obtain ⟨rfl, rfl⟩ := List.cons.inj whole
      rw [cost] at size
      omega

end GatedProxy.Text
