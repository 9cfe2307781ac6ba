import GatedProxy.Credential
import GatedProxy.Proofs.Text.Cut
import GatedProxy.Proofs.Text.Utf8
import Mathlib.Data.Finset.Card
import Mathlib.Data.List.Induction

namespace GatedProxy

namespace Base64

theorem value?_symbol : ∀ n < 64, value? (symbol n) = some n := by decide

theorem symbol_not_pad : ∀ n < 64, symbol n ≠ '=' := by decide

theorem symbol_solid : ∀ n < 64, Text.isBlank (symbol n) = false := by decide

theorem upper_range {c : Char} (upper : c.isUpper = true) : 65 ≤ c.toNat ∧ c.toNat ≤ 90 := by
  obtain ⟨low, high⟩ := of_decide_eq_true upper
  exact ⟨UInt32.le_iff_toNat_le.mp low, UInt32.le_iff_toNat_le.mp high⟩

theorem lower_range {c : Char} (lower : c.isLower = true) : 97 ≤ c.toNat ∧ c.toNat ≤ 122 := by
  obtain ⟨low, high⟩ := Bool.and_eq_true_iff.mp lower
  have low := of_decide_eq_true low
  have high := of_decide_eq_true high
  exact ⟨UInt32.le_iff_toNat_le.mp low, UInt32.le_iff_toNat_le.mp high⟩

theorem digit_range {c : Char} (digit : c.isDigit = true) : 48 ≤ c.toNat ∧ c.toNat ≤ 57 :=
  Char.isDigit_iff_toNat.mp digit

theorem symbol_of_value? {c : Char} {n : Nat} (value : value? c = some n) :
    n < 64 ∧ symbol n = c := by
  have back : ∀ {m}, m = c.toNat → Char.ofNat m = c := by
    intro m same
    rw [same, Char.ofNat_toNat]
  unfold value? at value
  unfold symbol
  split at value
  · rename_i upper
    cases value
    have range := upper_range upper
    refine ⟨by omega, ?_⟩
    rw [if_pos (by omega)]
    exact back (by omega)
  · split at value
    · rename_i lower
      cases value
      have range := lower_range lower
      refine ⟨by omega, ?_⟩
      rw [if_neg (by omega), if_pos (by omega)]
      exact back (by omega)
    · split at value
      · rename_i digit
        cases value
        have range := digit_range digit
        refine ⟨by omega, ?_⟩
        rw [if_neg (by omega), if_neg (by omega), if_pos (by omega)]
        exact back (by omega)
      · split at value
        · rename_i plus
          cases value
          exact ⟨by decide, plus.symm⟩
        · split at value
          · rename_i slash
            cases value
            exact ⟨by decide, slash.symm⟩
          · cases value

theorem ofNat_eq_of_toNat {a : UInt8} {n : Nat} (same : n = a.toNat) : UInt8.ofNat n = a := by
  rw [same, UInt8.ofNat_toNat]

theorem decode_roundtrip (bytes : Bytes) : decode? (encode bytes) = some bytes := by
  induction bytes using encode.induct with
  | case1 => rfl
  | case2 a =>
    have boundA := a.toNat_lt
    have first : UInt8.ofNat (a.toNat / 4 * 4 + a.toNat % 4 * 16 / 16) = a :=
      ofNat_eq_of_toNat (by omega)
    rw [encode, decode?.eq_2, value?_symbol _ (by omega), value?_symbol _ (by omega)]
    simp only [Option.bind_eq_bind, Option.bind_some, Nat.mul_mod_left, if_pos, first]
  | case3 a b =>
    have boundA := a.toNat_lt
    have boundB := b.toNat_lt
    have first : UInt8.ofNat (a.toNat / 4 * 4 + (a.toNat % 4 * 16 + b.toNat / 16) / 16) = a :=
      ofNat_eq_of_toNat (by omega)
    have second : UInt8.ofNat
        ((a.toNat % 4 * 16 + b.toNat / 16) % 16 * 16 + b.toNat % 16 * 4 / 4) = b :=
      ofNat_eq_of_toNat (by omega)
    rw [encode, decode?.eq_3 _ _ _ (symbol_not_pad _ (by omega)), value?_symbol _ (by omega),
      value?_symbol _ (by omega), value?_symbol _ (by omega)]
    simp only [Option.bind_eq_bind, Option.bind_some, Nat.mul_mod_left, if_pos, first, second]
  | case4 a b c rest ih =>
    have boundA := a.toNat_lt
    have boundB := b.toNat_lt
    have boundC := c.toNat_lt
    have first : UInt8.ofNat (a.toNat / 4 * 4 + (a.toNat % 4 * 16 + b.toNat / 16) / 16) = a :=
      ofNat_eq_of_toNat (by omega)
    have second : UInt8.ofNat ((a.toNat % 4 * 16 + b.toNat / 16) % 16 * 16 +
        (b.toNat % 16 * 4 + c.toNat / 64) / 4) = b :=
      ofNat_eq_of_toNat (by omega)
    have third : UInt8.ofNat
        ((b.toNat % 16 * 4 + c.toNat / 64) % 4 * 64 + c.toNat % 64) = c :=
      ofNat_eq_of_toNat (by omega)
    have last := symbol_not_pad (c.toNat % 64) (by omega)
    rw [encode, decode?.eq_4 _ _ _ _ _ (fun _ pad _ => last pad) (fun pad _ => last pad),
      value?_symbol _ (by omega), value?_symbol _ (by omega), value?_symbol _ (by omega),
      value?_symbol _ (by omega), ih]
    simp only [Option.bind_eq_bind, Option.bind_some, first, second, third]

theorem decode_canonical {text : Text} {bytes : Bytes} (read : decode? text = some bytes) :
    text = encode bytes := by
  induction text using decode?.induct generalizing bytes with
  | case1 =>
    cases read
    rfl
  | case2 x y =>
    rw [decode?.eq_2] at read
    simp only [Option.bind_eq_bind, Option.bind_eq_some_iff, Option.ite_none_right_eq_some] at read
    obtain ⟨p, valueP, q, valueQ, clean, equal⟩ := read
    obtain ⟨boundP, rfl⟩ := symbol_of_value? valueP
    obtain ⟨boundQ, rfl⟩ := symbol_of_value? valueQ
    cases equal
    have first : (p * 4 + q / 16) % 2 ^ 8 / 4 = p := by omega
    have second : (p * 4 + q / 16) % 2 ^ 8 % 4 * 16 = q := by omega
    rw [encode, UInt8.toNat_ofNat', first, second]
  | case3 x y z notPad =>
    rw [decode?.eq_3 x y z notPad] at read
    simp only [Option.bind_eq_bind, Option.bind_eq_some_iff, Option.ite_none_right_eq_some] at read
    obtain ⟨p, valueP, q, valueQ, r, valueR, clean, equal⟩ := read
    obtain ⟨boundP, rfl⟩ := symbol_of_value? valueP
    obtain ⟨boundQ, rfl⟩ := symbol_of_value? valueQ
    obtain ⟨boundR, rfl⟩ := symbol_of_value? valueR
    cases equal
    have first : (p * 4 + q / 16) % 2 ^ 8 / 4 = p := by omega
    have second : (p * 4 + q / 16) % 2 ^ 8 % 4 * 16 + (q % 16 * 16 + r / 4) % 2 ^ 8 / 16 = q := by
      omega
    have third : (q % 16 * 16 + r / 4) % 2 ^ 8 % 16 * 4 = r := by omega
    rw [encode, UInt8.toNat_ofNat', UInt8.toNat_ofNat', first, second, third]
  | case4 x y z w rest notTwo notOne ih =>
    rw [decode?.eq_4 x y z w rest notTwo notOne] at read
    simp only [Option.bind_eq_bind, Option.bind_eq_some_iff] at read
    obtain ⟨p, valueP, q, valueQ, r, valueR, s, valueS, later, readLater, equal⟩ := read
    obtain ⟨boundP, rfl⟩ := symbol_of_value? valueP
    obtain ⟨boundQ, rfl⟩ := symbol_of_value? valueQ
    obtain ⟨boundR, rfl⟩ := symbol_of_value? valueR
    obtain ⟨boundS, rfl⟩ := symbol_of_value? valueS
    cases equal
    have first : (p * 4 + q / 16) % 2 ^ 8 / 4 = p := by omega
    have second : (p * 4 + q / 16) % 2 ^ 8 % 4 * 16 + (q % 16 * 16 + r / 4) % 2 ^ 8 / 16 = q := by
      omega
    have third : (q % 16 * 16 + r / 4) % 2 ^ 8 % 16 * 4 + (r % 4 * 64 + s) % 2 ^ 8 / 64 = r := by
      omega
    have last : (r % 4 * 64 + s) % 2 ^ 8 % 64 = s := by omega
    rw [encode, UInt8.toNat_ofNat', UInt8.toNat_ofNat', UInt8.toNat_ofNat', first, second, third,
      last, ih readLater]
  | case5 text empty two one full =>
    rw [decode?.eq_5 text empty two one full] at read
    cases read

theorem decode_exact {text : Text} {bytes : Bytes} : decode? text = some bytes ↔ text = encode bytes := by
  constructor
  · exact decode_canonical
  · intro written
    rw [written]
    exact decode_roundtrip bytes

-- The one byte again, but with a bit set that stands for none.
example : decode? "QQ==".toList = some [65] ∧ decode? "QR==".toList = none := by decide

theorem encode_solid (bytes : Bytes) : Text.Solid (encode bytes) := by
  induction bytes using encode.induct with
  | case1 =>
    intro c member
    cases member
  | case2 a =>
    have boundA := a.toNat_lt
    intro c member
    simp only [encode, List.mem_cons, List.not_mem_nil, or_false] at member
    rcases member with rfl | rfl | rfl | rfl
    · exact symbol_solid _ (by omega)
    · exact symbol_solid _ (by omega)
    · decide
    · decide
  | case3 a b =>
    have boundA := a.toNat_lt
    have boundB := b.toNat_lt
    intro c member
    simp only [encode, List.mem_cons, List.not_mem_nil, or_false] at member
    rcases member with rfl | rfl | rfl | rfl
    · exact symbol_solid _ (by omega)
    · exact symbol_solid _ (by omega)
    · exact symbol_solid _ (by omega)
    · decide
  | case4 a b c rest ih =>
    have boundA := a.toNat_lt
    have boundB := b.toNat_lt
    have boundC := c.toNat_lt
    intro d member
    simp only [encode, List.mem_cons] at member
    rcases member with rfl | rfl | rfl | rfl | later
    · exact symbol_solid _ (by omega)
    · exact symbol_solid _ (by omega)
    · exact symbol_solid _ (by omega)
    · exact symbol_solid _ (by omega)
    · exact ih d later

def alphabet : Text := "ABCDEFGHIJKLMNOPQRSTUVWXYZabcdefghijklmnopqrstuvwxyz0123456789+/".toList

theorem alphabet_symbol : ∀ n < 64, alphabet[n]? = some (symbol n) := by decide

theorem symbol_mem {n : Nat} (bound : n < 64) : symbol n ∈ alphabet :=
  List.mem_of_getElem? (alphabet_symbol n bound)

structure Padded (t : Text) : Prop where
  whole : t.length % 4 = 0
  parts : ∃ symbols padding, t = symbols ++ List.replicate padding '=' ∧ padding ≤ 2 ∧
    ∀ c ∈ symbols, c ∈ alphabet

theorem encode_padded (bytes : Bytes) : Padded (encode bytes) := by
  induction bytes using encode.induct with
  | case1 => exact ⟨rfl, [], 0, rfl, by decide, List.forall_mem_nil _⟩
  | case2 a =>
    have boundA := a.toNat_lt
    rw [encode]
    refine ⟨by simp, [symbol (a.toNat / 4), symbol (a.toNat % 4 * 16)], 2, rfl, by decide, ?_⟩
    simp only [List.forall_mem_cons]
    exact ⟨symbol_mem (by omega), symbol_mem (by omega), List.forall_mem_nil _⟩
  | case3 a b =>
    have boundA := a.toNat_lt
    have boundB := b.toNat_lt
    rw [encode]
    refine ⟨by simp, [symbol (a.toNat / 4), symbol (a.toNat % 4 * 16 + b.toNat / 16),
      symbol (b.toNat % 16 * 4)], 1, rfl, by decide, ?_⟩
    simp only [List.forall_mem_cons]
    exact ⟨symbol_mem (by omega), symbol_mem (by omega), symbol_mem (by omega),
      List.forall_mem_nil _⟩
  | case4 a b c rest ih =>
    have boundA := a.toNat_lt
    have boundB := b.toNat_lt
    have boundC := c.toNat_lt
    obtain ⟨whole, symbols, padding, same, few, members⟩ := ih
    rw [encode]
    refine ⟨?_, symbol (a.toNat / 4) :: symbol (a.toNat % 4 * 16 + b.toNat / 16) ::
      symbol (b.toNat % 16 * 4 + c.toNat / 64) :: symbol (c.toNat % 64) :: symbols, padding, ?_, few,
      ?_⟩
    · simp only [List.length_cons]
      omega
    · rw [same]
      rfl
    · simp only [List.forall_mem_cons]
      exact ⟨symbol_mem (by omega), symbol_mem (by omega), symbol_mem (by omega),
        symbol_mem (by omega), members⟩

end Base64

namespace Credential

theorem ofPair?_exact {pair : Text} {c : Credential} :
    ofPair? pair = some c ↔ pair = c.toPair ∧ ':' ∉ c.user := by
  constructor
  · intro read
    obtain ⟨⟨user, password⟩, cut, rfl⟩ := Option.map_eq_some_iff.1 read
    exact Text.splitFirst_exact.mp cut
  · rintro ⟨rfl, clear⟩
    rw [ofPair?, toPair, Text.splitFirst_append c.password clear]
    rfl

theorem ofBasic?_exact {value : Text} {c : Credential} :
    ofBasic? value = some c ↔ ':' ∉ c.user ∧ ∃ before after, Text.Blank before ∧
      Text.Blank after ∧
      value = basicScheme ++ before ++ Base64.encode (Text.utf8 c.toPair) ++ after := by
  constructor
  · intro read
    simp only [ofBasic?, Option.bind_eq_bind, Option.bind_eq_some_iff] at read
    obtain ⟨token, cut, bytes, decoded, pair, spelled, split⟩ := read
    obtain ⟨rfl, clear⟩ := ofPair?_exact.mp split
    rw [Base64.decode_exact, Text.utf8_exact.mp spelled] at decoded
    obtain ⟨before, after, front, back, whole⟩ :=
      (Text.trim_exact (Base64.encode_solid _)).mp decoded
    refine ⟨clear, before, after, front, back, ?_⟩
    rw [Text.after?_exact.mp cut, whole]
    simp only [List.append_assoc]
  · rintro ⟨clear, before, after, front, back, rfl⟩
    have cut := Text.after?_append basicScheme
      (before ++ Base64.encode (Text.utf8 c.toPair) ++ after)
    have trimmed := Text.trim_between front back (Base64.encode_solid (Text.utf8 c.toPair))
    simp only [List.append_assoc] at cut trimmed ⊢
    simp only [ofBasic?, Option.bind_eq_bind, cut, Option.bind_some, trimmed,
      Base64.decode_roundtrip, Text.utf8_roundtrip]
    exact ofPair?_exact.mpr ⟨rfl, clear⟩

def token? (value : Text) : Option Text := (Text.after? basicScheme value).map Text.trim

theorem token?_exact {value token : Text} (solid : Text.Solid token) :
    token? value = some token ↔ ∃ before after, Text.Blank before ∧ Text.Blank after ∧
      value = basicScheme ++ before ++ token ++ after := by
  constructor
  · intro carried
    obtain ⟨rest, cut, trimmed⟩ := Option.map_eq_some_iff.1 carried
    obtain ⟨before, after, front, back, whole⟩ := (Text.trim_exact solid).mp trimmed
    refine ⟨before, after, front, back, ?_⟩
    rw [Text.after?_exact.mp cut, whole]
    simp only [List.append_assoc]
  · rintro ⟨before, after, front, back, rfl⟩
    have cut := Text.after?_append basicScheme (before ++ token ++ after)
    have trimmed := Text.trim_between front back solid
    simp only [List.append_assoc] at cut trimmed ⊢
    rw [token?, cut, Option.map_some, trimmed]

theorem ofBasic?_token {value : Text} {c : Credential} :
    ofBasic? value = some c ↔
      ':' ∉ c.user ∧ token? value = some (Base64.encode (Text.utf8 c.toPair)) := by
  rw [ofBasic?_exact, token?_exact (Base64.encode_solid _)]

theorem ofBasic?_toBasic {c : Credential} (clear : ':' ∉ c.user) :
    ofBasic? c.toBasic = some c := by
  refine ofBasic?_exact.mpr ⟨clear, [], [], nofun, nofun, ?_⟩
  rw [toBasic, List.append_nil, List.append_nil]

theorem ofBasic?_same {value : Text} {c : Credential} (read : ofBasic? value = some c)
    (other : Text) : ofBasic? other = some c ↔ token? other = token? value := by
  obtain ⟨clear, carried⟩ := ofBasic?_token.mp read
  rw [carried, ofBasic?_token]
  exact and_iff_right clear

-- Every pair that can be sent has one spelling, but for the blanks around it.
theorem spelling_unique :
    (∀ (value : Text) (c : Credential), ofBasic? value = some c ↔ ':' ∉ c.user ∧
      ∃ before after, Text.Blank before ∧ Text.Blank after ∧ value =
        basicScheme ++ before ++ Base64.encode (Text.utf8 (c.user ++ ':' :: c.password)) ++ after) ∧
    (∀ c : Credential, ':' ∉ c.user → ofBasic? c.toBasic = some c) ∧
    (∀ (value other : Text) (c : Credential), ofBasic? value = some c →
      (ofBasic? other = some c ↔ token? other = token? value)) ∧
    ∀ (value : Text) (c : Credential), ofBasic? value = some c →
      ∃ token, token? value = some token ∧ Base64.Padded token ∧ Text.Solid token ∧
        Base64.decode? token = some (Text.utf8 (c.user ++ ':' :: c.password)) := by
  refine ⟨fun value c => ofBasic?_exact, fun c => ofBasic?_toBasic, ?_, ?_⟩
  · intro value other c read
    exact ofBasic?_same read other
  · intro value c read
    obtain ⟨_, carried⟩ := ofBasic?_token.mp read
    exact ⟨_, carried, Base64.encode_padded _, Base64.encode_solid _, Base64.decode_roundtrip _⟩

-- Padding left out and added, a bit that stands for none, a blank inside, another alphabet, an
-- overlong NUL, another case of the scheme.
example : ofBasic? "Basic dTo=".toList = some ⟨['u'], []⟩ ∧
    ∀ value ∈ ["Basic dTo", "Basic dTo==", "Basic dTp=", "Basic d To=", "Basic dTp-fg==",
      "Basic dTrAgA==", "basic dTo="], ofBasic? value.toList = none := by decide +kernel

end Credential

namespace CredentialTable

theorem insert_password? (table : CredentialTable) (c : Credential) (user : Text) :
    (table.insert c).password? user =
      if c.user = user then some c.password else table.password? user := by
  by_cases same : c.user = user
  · simp [password?, insert, same]
  · have others : ∀ old : Credential, (!decide (old.user = c.user) && decide (old.user = user)) =
        decide (old.user = user) := by
      intro old
      by_cases equal : old.user = user
      · simp [equal, Ne.symm same]
      · simp [equal]
    simp [password?, insert, same, List.find?_filter, others]

theorem ofList_append (earlier : List Credential) (c : Credential) :
    ofList (earlier ++ [c]) = (ofList earlier).insert c := by
  simp [ofList]

theorem ofList_password? {credentials : List Credential} {user password : Text} :
    (ofList credentials).password? user = some password ↔
      ∃ earlier later, credentials = earlier ++ ⟨user, password⟩ :: later ∧
        ∀ c ∈ later, c.user ≠ user := by
  induction credentials using List.reverseRecOn with
  | nil => simp [ofList, password?]
  | append_singleton entries c ih =>
    rw [ofList_append, insert_password?]
    constructor
    · intro found
      by_cases same : c.user = user
      · rw [if_pos same] at found
        cases found
        refine ⟨entries, [], ?_, by simp⟩
        rw [← same]
      · rw [if_neg same] at found
        obtain ⟨earlier, later, rfl, others⟩ := ih.mp found
        refine ⟨earlier, later ++ [c], by simp, ?_⟩
        intro d member
        rcases List.mem_append.mp member with old | last
        · exact others d old
        · rw [List.mem_singleton.mp last]
          exact same
    · rintro ⟨earlier, later, whole, others⟩
      rcases List.eq_nil_or_concat later with rfl | ⟨front, d, rfl⟩
      · obtain ⟨rfl, rfl⟩ := List.append_singleton_inj.mp whole
        rw [if_pos rfl]
      · rw [List.concat_eq_append] at whole others
        have shape : earlier ++ ⟨user, password⟩ :: (front ++ [d]) =
            earlier ++ ⟨user, password⟩ :: front ++ [d] := by simp
        obtain ⟨rfl, rfl⟩ := List.append_singleton_inj.mp (whole.trans shape)
        rw [if_neg (others c (by simp))]
        exact ih.mpr ⟨earlier, front, rfl, fun d member => others d (by simp [member])⟩

theorem insert_users (table : CredentialTable) (c : Credential) :
    (table.insert c).users = c.user :: table.users.filter fun user => user ≠ c.user := by
  simp [users, insert, List.filter_map, Function.comp_def]

theorem ofList_users (credentials : List Credential) :
    (ofList credentials).users.Nodup ∧
      ∀ user, user ∈ (ofList credentials).users ↔ user ∈ credentials.map (·.user) := by
  induction credentials using List.reverseRecOn with
  | nil => simp [ofList, users]
  | append_singleton entries c ih =>
    obtain ⟨single, same⟩ := ih
    rw [ofList_append, insert_users]
    constructor
    · refine List.nodup_cons.2 ⟨?_, single.filter _⟩
      intro member
      exact absurd rfl (of_decide_eq_true (List.mem_filter.1 member).2)
    · intro user
      rw [List.mem_cons, List.mem_filter, same, List.map_append, List.mem_append]
      by_cases latest : user = c.user
      · simp [latest]
      · simp [latest]

theorem ofList_size (credentials : List Credential) :
    (ofList credentials).size = (credentials.map (·.user)).toFinset.card := by
  obtain ⟨single, same⟩ := ofList_users credentials
  have sets : (credentials.map (·.user)).toFinset = (ofList credentials).users.toFinset := by
    ext user
    rw [List.mem_toFinset, List.mem_toFinset, same]
  rw [sets, List.toFinset_card_of_nodup single, users, List.length_map, size]

end CredentialTable

end GatedProxy
