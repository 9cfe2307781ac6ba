import GatedProxy.Text.Basic

namespace GatedProxy.Text

def hexDigits : Text := "0123456789abcdef".toList

def hexValue (t : Text) : Nat := t.foldl (fun value c => value * 16 + (hexDigit? c).getD 0) 0

theorem digitChar_mem : ∀ n < 16, Nat.digitChar n ∈ hexDigits := by decide

theorem hexDigit?_digitChar : ∀ n < 16, hexDigit? (Nat.digitChar n) = some n := by decide

theorem hex_small {n : Nat} (small : n < 16) : hex n = [Nat.digitChar n] :=
  Nat.toDigits_of_lt_base small

theorem hex_large {n : Nat} (large : 16 ≤ n) :
    hex n = hex (n / 16) ++ [Nat.digitChar (n % 16)] :=
  Nat.toDigits_of_base_le (by decide) large

theorem mem_hex (n : Nat) : ∀ c ∈ hex n, c ∈ hexDigits := by
  induction n using Nat.strongRecOn with
  | ind n ih =>
    rcases Nat.lt_or_ge n 16 with small | large
    · rw [hex_small small, List.forall_mem_singleton]
      exact digitChar_mem n small
    · rw [hex_large large, List.forall_mem_append, List.forall_mem_singleton]
      exact ⟨ih (n / 16) (by omega), digitChar_mem _ (by omega)⟩

theorem hexValue_hex (n : Nat) : hexValue (hex n) = n := by
  induction n using Nat.strongRecOn with
  | ind n ih =>
    rcases Nat.lt_or_ge n 16 with small | large
    · simp [hex_small small, hexValue, hexDigit?_digitChar n small]
    · have front := ih (n / 16) (by omega)
      have last := hexDigit?_digitChar (n % 16) (by omega)
      rw [hexValue] at front
      rw [hex_large large, hexValue, List.foldl_append, front]
      simp only [List.foldl_cons, List.foldl_nil, last, Option.getD_some]
      omega

theorem hexValue_padded (width n : Nat) : hexValue (hexPadded width n) = n := by
  have zeros (count : Nat) (t : Text) :
      hexValue (List.replicate count '0' ++ t) = hexValue t := by
    induction count with
    | zero => rfl
    | succ count ih =>
      rw [← ih]
      rfl
  rw [hexPadded, zeros, hexValue_hex]

theorem mem_hexPadded (width n : Nat) : ∀ c ∈ hexPadded width n, c ∈ hexDigits := by
  refine List.forall_mem_append.2 ⟨?_, mem_hex n⟩
  intro c member
  rw [List.eq_of_mem_replicate member]
  decide

theorem length_hexPadded {width n : Nat} (fits : (hex n).length ≤ width) :
    (hexPadded width n).length = width := by
  rw [hexPadded, List.length_append, List.length_replicate]
  omega

-- At least one decimal digit and nothing else. Their number has no bound, and zeros may lead.
structure Digits (t : Text) : Prop where
  full : t ≠ []
  decimal : ∀ c ∈ t, c.isDigit = true

inductive Numeral : Text → Nat → Prop where
  | bare (digits : Digits t) : Numeral t (Nat.ofDigitChars 10 t 0)
  | signed (digits : Digits t) : Numeral ('+' :: t) (Nat.ofDigitChars 10 t 0)

variable {bound value n : Nat} {beyond : NumberFault} {t : Text}

theorem digit?_of_isDigit {c : Char} (decimal : c.isDigit = true) :
    digit? c = some (c.toNat - '0'.toNat) := if_pos decimal

theorem digit?_of_not_isDigit {c : Char} (other : ¬ c.isDigit = true) : digit? c = none :=
  if_neg other

theorem le_ofDigitChars (value : Nat) (t : Text) : value ≤ Nat.ofDigitChars 10 t value := by
  rw [Nat.ofDigitChars_eq_ofDigitChars_zero]
  have scaled : value ≤ 10 ^ t.length * value :=
    Nat.le_mul_of_pos_left value (Nat.pow_pos (by decide))
  omega

-- The value never falls from digit to digit, so it is past the bound at the end if it ever was.
theorem digitsUpTo_exact (room : value ≤ bound) :
    digitsUpTo bound beyond value t = .ok n ↔
      (∀ c ∈ t, c.isDigit = true) ∧ Nat.ofDigitChars 10 t value = n ∧ n ≤ bound := by
  induction t generalizing value with
  | nil =>
    rw [digitsUpTo, Nat.ofDigitChars_nil]
    constructor
    · intro read
      cases read
      exact ⟨List.forall_mem_nil _, rfl, room⟩
    · intro parts
      exact congrArg Except.ok parts.2.1
  | cons c t ih =>
    rw [digitsUpTo, List.forall_mem_cons, Nat.ofDigitChars_cons, Nat.mul_comm 10 value]
    by_cases decimal : c.isDigit = true
    · rw [digit?_of_isDigit decimal]
      dsimp only
      by_cases fits : value * 10 + (c.toNat - '0'.toNat) ≤ bound
      · rw [if_pos fits, ih fits, and_iff_right decimal]
      · rw [if_neg fits]
        refine iff_of_false nofun ?_
        intro parts
        obtain ⟨_, rfl, small⟩ := parts
        exact fits (Nat.le_trans (le_ofDigitChars _ t) small)
    · rw [digit?_of_not_isDigit decimal]
      exact iff_of_false nofun fun parts => decimal parts.1.1

theorem Digits.exact (full : t ≠ []) :
    digitsUpTo bound beyond 0 t = .ok n ↔
      Digits t ∧ Nat.ofDigitChars 10 t 0 = n ∧ n ≤ bound := by
  rw [digitsUpTo_exact (Nat.zero_le bound)]
  constructor
  · intro read
    obtain ⟨decimal, parts⟩ := read
    exact ⟨⟨full, decimal⟩, parts⟩
  · intro read
    obtain ⟨digits, parts⟩ := read
    exact ⟨digits.decimal, parts⟩

theorem Digits.head (digits : Digits (c :: t)) : c.isDigit = true :=
  digits.decimal c List.mem_cons_self

theorem numeral_plus : Numeral ('+' :: t) n ↔ Digits t ∧ Nat.ofDigitChars 10 t 0 = n := by
  constructor
  · intro written
    cases written with
    | bare digits => exact absurd digits.head (by decide)
    | signed digits => exact ⟨digits, rfl⟩
  · intro parts
    obtain ⟨digits, rfl⟩ := parts
    exact .signed digits

theorem numeral_bare {c : Char} (other : c ≠ '+') :
    Numeral (c :: t) n ↔ Digits (c :: t) ∧ Nat.ofDigitChars 10 (c :: t) 0 = n := by
  constructor
  · intro written
    cases written with
    | bare digits => exact ⟨digits, rfl⟩
    | signed digits => exact absurd rfl other
  · intro parts
    obtain ⟨digits, rfl⟩ := parts
    exact .bare digits

theorem unsigned_exact : unsigned bound t = .ok n ↔ Numeral t n ∧ n ≤ bound := by
  unfold unsigned
  split
  · refine iff_of_false nofun ?_
    intro parts
    cases parts.1 with
    | bare digits => exact digits.full rfl
  · refine iff_of_false nofun ?_
    intro parts
    exact (numeral_plus.1 parts.1).1.full rfl
  · rename_i digits more
    rw [Digits.exact more, numeral_plus, and_assoc]
  · rename_i full lone signed
    cases t with
    | nil => exact absurd rfl full
    | cons c t =>
      have other : c ≠ '+' := by
        intro plus
        exact signed t (congrArg (· :: t) plus)
      rw [Digits.exact full, numeral_bare other, and_assoc]

theorem numeral_exact : Numeral t n ↔ unsigned n t = .ok n :=
  (unsigned_exact.trans (and_iff_left n.le_refl)).symm

theorem Numeral.char (written : Numeral t n) : ∀ c ∈ t, c = '+' ∨ c.isDigit = true := by
  intro c member
  cases written with
  | bare digits => exact .inr (digits.decimal c member)
  | signed digits =>
    rcases List.mem_cons.1 member with plus | later
    · exact .inl plus
    · exact .inr (digits.decimal c later)

theorem decimal_digits (n : Nat) : Digits (decimal n) :=
  ⟨Nat.toDigits_ne_nil, fun _ member => Nat.isDigit_of_mem_toDigits (by decide) (by decide) member⟩

theorem decimal_numeral (n : Nat) : Numeral (decimal n) n := by
  have written := Numeral.bare (decimal_digits n)
  rw [decimal, Nat.ofDigitChars_ten_toDigits] at written
  exact written

theorem decimal_clear {c : Char} (n : Nat) (other : c.isDigit = false) : c ∉ decimal n := by
  intro member
  rw [(decimal_digits n).decimal c member] at other
  cases other

theorem decimal_injective {m n : Nat} (same : decimal m = decimal n) : m = n := by
  have value := congrArg (fun t => Nat.ofDigitChars 10 t 0) same
  simpa only [decimal, Nat.ofDigitChars_ten_toDigits] using value

theorem signed64_numeral (written : Numeral t n) (room : n ≤ 0x7fffffffffffffff) :
    signed64 t = .ok (n : Int) := by
  have minus : '-' ∉ t := by
    intro member
    rcases written.char _ member with plus | digit
    · exact absurd plus (by decide)
    · exact absurd digit (by decide)
  unfold signed64
  split
  · exact absurd List.mem_cons_self minus
  · exact absurd List.mem_cons_self minus
  · rw [unsigned_exact.2 ⟨written, room⟩]
    rfl

end GatedProxy.Text
