import GatedProxy.Proofs.Credential
import GatedProxy.Settings

namespace GatedProxy

theorem Credential.toPair_injective {c d : Credential} (clear : ':' ∉ c.user)
    (clear' : ':' ∉ d.user) (same : c.toPair = d.toPair) : c = d := by
  have read := ofPair?_exact.mpr ⟨rfl, clear⟩
  have read' := ofPair?_exact.mpr ⟨rfl, clear'⟩
  rw [same, read'] at read
  exact (Option.some.inj read).symm

namespace Settings

-- What configuration asks of an entry beyond what a header has to satisfy: a user name.
def Proper (c : Credential) : Prop := ':' ∉ c.user ∧ c.user ≠ []

theorem readEntry_exact {entry : Text} {c : Credential} :
    readEntry entry = .ok c ↔ entry = c.toPair ∧ Proper c := by
  unfold readEntry Proper
  constructor
  · intro read
    split at read
    · rename_i d split
      split at read
      · cases read
      · rename_i named
        cases read
        obtain ⟨whole, clear⟩ := Credential.ofPair?_exact.mp split
        exact ⟨whole, clear, by simpa using named⟩
    · cases read
  · rintro ⟨whole, clear, named⟩
    rw [Credential.ofPair?_exact.mpr ⟨whole, clear⟩]
    simp [named]

theorem readEntries_exact {entries : List Text} {credentials : List Credential} :
    readEntries entries = .ok credentials ↔
      entries = credentials.map Credential.toPair ∧ ∀ c ∈ credentials, Proper c := by
  induction entries generalizing credentials with
  | nil =>
    cases credentials with
    | nil => simp [readEntries]
    | cons c others => simp [readEntries]
  | cons entry rest ih =>
    have first (c : Credential) : readEntry entry = .ok c ↔ entry = c.toPair ∧ Proper c :=
      readEntry_exact
    constructor
    · intro read
      rw [readEntries] at read
      cases readFirst : readEntry entry with
      | error e =>
        rw [readFirst] at read
        cases read
      | ok c =>
        cases readOthers : readEntries rest with
        | error e =>
          rw [readFirst, readOthers] at read
          cases read
        | ok others =>
          rw [readFirst, readOthers] at read
          cases read
          obtain ⟨rfl, proper⟩ := (first c).mp readFirst
          obtain ⟨rfl, properOthers⟩ := ih.mp readOthers
          refine ⟨rfl, ?_⟩
          intro d member
          rcases List.mem_cons.mp member with rfl | later
          · exact proper
          · exact properOthers d later
    · rintro ⟨whole, proper⟩
      cases credentials with
      | nil => cases whole
      | cons c others =>
        obtain ⟨same, rest⟩ := List.cons.inj whole
        have readFirst := (first c).mpr ⟨same, proper c List.mem_cons_self⟩
        have readOthers := ih.mpr ⟨rest, fun d later => proper d (List.mem_cons_of_mem c later)⟩
        rw [readEntries, readFirst, readOthers]
        rfl

theorem credentials_of_ofOptions {o : Options} {settings : Settings}
    (accepted : ofOptions o = .ok settings) :
    ∃ credentials, readEntries (o.credentials.getD defaultCredentials) = .ok credentials ∧
      settings.credentials = CredentialTable.ofList credentials := by
  unfold ofOptions at accepted
  cases read : readEntries (o.credentials.getD defaultCredentials) with
  | error e =>
    rw [read] at accepted
    cases accepted
  | ok credentials =>
    rw [read] at accepted
    change (if _ then _ else _) = _ at accepted
    split at accepted
    · cases accepted
    · split at accepted
      · cases accepted
      · cases accepted
        exact ⟨credentials, rfl, rfl⟩

end Settings

def First (p : α → Prop) (l : List α) (x : α) : Prop :=
  ∃ before after, l = before ++ x :: after ∧ p x ∧ ∀ y ∈ before, ¬ p y

theorem first_nil {p : α → Prop} {x : α} : ¬ First p [] x := by
  intro first
  obtain ⟨before, after, whole, _⟩ := first
  cases before with
  | nil => cases whole
  | cons y before => cases whole

theorem first_cons {p : α → Prop} {y x : α} {l : List α} :
    First p (y :: l) x ↔ p y ∧ x = y ∨ ¬ p y ∧ First p l x := by
  constructor
  · intro first
    obtain ⟨before, after, whole, holds, others⟩ := first
    cases before with
    | nil =>
      cases whole
      exact .inl ⟨holds, rfl⟩
    | cons z before =>
      cases whole
      obtain ⟨not, later⟩ := List.forall_mem_cons.1 others
      exact .inr ⟨not, before, after, rfl, holds, later⟩
  · intro cases
    rcases cases with ⟨holds, rfl⟩ | ⟨not, before, after, rfl, holds, others⟩
    · exact ⟨[], l, rfl, holds, List.forall_mem_nil _⟩
    · exact ⟨y :: before, after, rfl, holds, List.forall_mem_cons.2 ⟨not, others⟩⟩

namespace Settings

def userOf (entry : Text) : Text := entry.takeWhile (· ≠ ':')

def passwordOf (entry : Text) : Text := (entry.dropWhile (· ≠ ':')).drop 1

def Improper (entry : Text) : Prop := ':' ∉ entry ∨ userOf entry = []

instance (entry : Text) : Decidable (Improper entry) :=
  inferInstanceAs (Decidable (':' ∉ entry ∨ userOf entry = []))

def credentialOf (entry : Text) : Credential := ⟨userOf entry, passwordOf entry⟩

def Latest (entries : List Text) (user password : Text) : Prop :=
  ∃ before entry after, entries = before ++ entry :: after ∧ userOf entry = user ∧
    passwordOf entry = password ∧ ∀ later ∈ after, userOf later ≠ user

variable {entry : Text} {entries : List Text}

theorem credentialOf_toPair {c : Credential} (clear : ':' ∉ c.user) :
    credentialOf c.toPair = c := by
  have before : ∀ d ∈ c.user, (decide (d ≠ ':')) = true := by
    intro d member
    apply decide_eq_true
    intro colon
    rw [colon] at member
    exact clear member
  rw [credentialOf, userOf, passwordOf, Credential.toPair, List.takeWhile_append_of_pos before,
    List.dropWhile_append_of_pos before]
  simp

theorem ofPair?_credentialOf (colon : ':' ∈ entry) :
    Credential.ofPair? entry = some (credentialOf entry) := by
  obtain ⟨user, password, rfl, clear⟩ := List.eq_append_cons_of_mem colon
  let c : Credential := ⟨user, password⟩
  have read : Credential.ofPair? c.toPair = some c := Credential.ofPair?_exact.2 ⟨rfl, clear⟩
  exact read.trans (congrArg some (credentialOf_toPair (c := c) clear).symm)

theorem readEntry_improper (improper : Improper entry) :
    readEntry entry = .error (.invalidCredential entry) := by
  unfold readEntry
  cases read : Credential.ofPair? entry with
  | none => rfl
  | some c =>
    obtain ⟨rfl, clear⟩ := Credential.ofPair?_exact.1 read
    rcases improper with uncut | unnamed
    · exact absurd (by simp [Credential.toPair]) uncut
    · have none : c.user = [] := by
        rw [← credentialOf_toPair clear]
        exact unnamed
      simp [none]

theorem credentialOf_proper (proper : ¬ Improper entry) :
    entry = (credentialOf entry).toPair ∧ Proper (credentialOf entry) := by
  obtain ⟨colon, named⟩ := not_or.1 proper
  obtain ⟨whole, clear⟩ := Credential.ofPair?_exact.1 (ofPair?_credentialOf (not_not.1 colon))
  exact ⟨whole, clear, named⟩

theorem readEntries_error {e : SettingsError} :
    readEntries entries = .error e ↔
      ∃ entry, e = .invalidCredential entry ∧ First Improper entries entry := by
  induction entries with
  | nil =>
    constructor
    · intro failed
      cases failed
    · intro found
      obtain ⟨entry, _, first⟩ := found
      exact absurd first first_nil
  | cons entry rest ih =>
    rw [readEntries]
    by_cases improper : Improper entry
    · rw [readEntry_improper improper]
      constructor
      · intro failed
        cases failed
        exact ⟨entry, rfl, first_cons.2 (.inl ⟨improper, rfl⟩)⟩
      · intro found
        obtain ⟨other, rfl, first⟩ := found
        rcases first_cons.1 first with ⟨_, rfl⟩ | ⟨proper, _⟩
        · rfl
        · exact absurd improper proper
    · have read := readEntry_exact.2 (credentialOf_proper improper)
      simp only [first_cons, improper, false_and, not_false_eq_true, true_and, false_or]
      rw [read, ← ih]
      cases readEntries rest with
      | error fault => exact Iff.rfl
      | ok others =>
        constructor
        · intro failed
          cases failed
        · intro failed
          cases failed

theorem readEntries_proper (proper : ∀ entry ∈ entries, ¬ Improper entry) :
    readEntries entries = .ok (entries.map credentialOf) := by
  refine readEntries_exact.2 ⟨?_, ?_⟩
  · rw [List.map_map]
    have same : ∀ entry ∈ entries, id entry = (Credential.toPair ∘ credentialOf) entry :=
      fun entry member => (credentialOf_proper (proper entry member)).1
    rw [← List.map_congr_left same, List.map_id]
  · intro c member
    obtain ⟨entry, listed, rfl⟩ := List.mem_map.1 member
    exact (credentialOf_proper (proper entry listed)).2

theorem zeroBuffer?_first {limits : Limits} {which : Buffer} :
    zeroBuffer? limits = some which ↔
      First (fun b => limits.size b = 0) [.request, .reply, .tunnel] which := by
  rw [zeroBuffer?, List.find?_eq_some_iff_append]
  constructor
  · intro found
    obtain ⟨zero, before, after, whole, others⟩ := found
    exact ⟨before, after, whole, by simpa using zero, by simpa using others⟩
  · intro first
    obtain ⟨before, after, whole, zero, others⟩ := first
    exact ⟨by simpa using zero, before, after, whole, by simpa using others⟩

theorem zeroBuffer?_none {limits : Limits} :
    zeroBuffer? limits = none ↔ ∀ which, limits.size which ≠ 0 := by
  rw [zeroBuffer?, List.find?_eq_none]
  constructor
  · intro none which
    cases which <;> simpa using none _ (by simp)
  · intro room which _
    simpa using room which

-- What the options make, by the first thing that is wrong with them.
inductive Makes (o : Options) : Except SettingsError Settings → Prop where
  | improper (first : First Improper (o.credentials.getD defaultCredentials) wrong) :
    Makes o (.error (.invalidCredential wrong))
  | nothing (empty : o.credentials.getD defaultCredentials = []) : Makes o (.error .noCredentials)
  | zero (proper : ∀ entry ∈ o.credentials.getD defaultCredentials, ¬ Improper entry)
    (full : o.credentials.getD defaultCredentials ≠ [])
    (first : First (fun b => o.limits.size b = 0) [.request, .reply, .tunnel] which) :
    Makes o (.error (.zeroBuffer which))
  | settings (proper : ∀ entry ∈ o.credentials.getD defaultCredentials, ¬ Improper entry)
    (full : o.credentials.getD defaultCredentials ≠ [])
    (room : ∀ which, o.limits.size which ≠ 0) :
    Makes o (.ok {
      listen := ⟨o.listenIp, o.port⟩
      credentials := .ofList ((o.credentials.getD defaultCredentials).map credentialOf)
      limits := o.limits
      statusInterval := o.statusInterval })

variable {o : Options} {r : Except SettingsError Settings}

theorem ofList_size_ne_zero (full : entries ≠ []) :
    (CredentialTable.ofList (entries.map credentialOf)).size ≠ 0 := by
  rw [CredentialTable.ofList_size, Finset.card_ne_zero]
  obtain ⟨entry, member⟩ := List.exists_mem_of_ne_nil entries full
  exact ⟨userOf entry, by simpa using ⟨entry, member, rfl⟩⟩

theorem Makes.ofOptions (makes : Makes o r) : ofOptions o = r := by
  unfold Settings.ofOptions
  cases makes with
  | improper first =>
    rw [readEntries_error.2 ⟨_, rfl, first⟩]
    rfl
  | nothing empty =>
    rw [empty]
    rfl
  | zero proper full first =>
    rw [readEntries_proper proper]
    change (if _ then _ else _) = _
    rw [if_neg (ofList_size_ne_zero full), zeroBuffer?_first.2 first]
  | settings proper full room =>
    rw [readEntries_proper proper]
    change (if _ then _ else _) = _
    rw [if_neg (ofList_size_ne_zero full), zeroBuffer?_none.2 room]

theorem exists_makes (o : Options) : ∃ r, Makes o r := by
  cases read : readEntries (o.credentials.getD defaultCredentials) with
  | error fault =>
    obtain ⟨entry, _, first⟩ := readEntries_error.1 read
    exact ⟨_, .improper first⟩
  | ok credentials =>
    have proper : ∀ entry ∈ o.credentials.getD defaultCredentials, ¬ Improper entry := by
      obtain ⟨whole, named⟩ := readEntries_exact.1 read
      rw [whole]
      intro entry member improper
      obtain ⟨c, listed, rfl⟩ := List.mem_map.1 member
      have single := readEntry_exact.2 ⟨rfl, named c listed⟩
      cases single.symm.trans (readEntry_improper improper)
    by_cases empty : o.credentials.getD defaultCredentials = []
    · exact ⟨_, .nothing empty⟩
    · cases zero : zeroBuffer? o.limits with
      | some which => exact ⟨_, .zero proper empty (zeroBuffer?_first.1 zero)⟩
      | none => exact ⟨_, .settings proper empty (zeroBuffer?_none.1 zero)⟩

theorem makes_exact : ofOptions o = r ↔ Makes o r := by
  constructor
  · intro made
    obtain ⟨other, makes⟩ := exists_makes o
    rw [← made, makes.ofOptions]
    exact makes
  · exact Makes.ofOptions

theorem latest_exact {user password : Text} :
    (CredentialTable.ofList (entries.map credentialOf)).accepts ⟨user, password⟩ = true ↔
      Latest entries user password := by
  rw [CredentialTable.accepts, decide_eq_true_iff, CredentialTable.ofList_password?]
  constructor
  · intro found
    obtain ⟨before, after, whole, others⟩ := found
    obtain ⟨front, rest, rfl, _, split⟩ := List.map_eq_append_iff.1 whole
    obtain ⟨entry, back, rfl, same, rfl⟩ := List.map_eq_cons_iff.1 split
    refine ⟨front, entry, back, rfl, congrArg (·.user) same, congrArg (·.password) same, ?_⟩
    exact fun later member => others _ (List.mem_map_of_mem member)
  · intro latest
    obtain ⟨front, entry, back, rfl, rfl, rfl, others⟩ := latest
    refine ⟨front.map credentialOf, back.map credentialOf, List.map_append, ?_⟩
    intro c member
    obtain ⟨later, listed, rfl⟩ := List.mem_map.1 member
    exact others later listed

structure Holds (o : Options) (s : Settings) : Prop where
  accepts : ∀ user password, s.credentials.accepts ⟨user, password⟩ = true ↔
    Latest (o.credentials.getD defaultCredentials) user password
  users : s.credentials.size =
    ((o.credentials.getD defaultCredentials).map userOf).toFinset.card
  occupied : 1 ≤ s.credentials.size
  named : ∀ user ∈ s.credentials.users, user ≠ []
  listen : s.listen = ⟨o.listenIp, o.port⟩
  limits : s.limits = o.limits
  statusInterval : s.statusInterval = o.statusInterval

theorem Makes.holds {s : Settings} (makes : Makes o (.ok s)) : Holds o s := by
  cases makes with
  | settings proper full room =>
    refine ⟨fun user password => latest_exact, ?_, ?_, ?_, rfl, rfl, rfl⟩
    · rw [CredentialTable.ofList_size, List.map_map]
      rfl
    · exact Nat.pos_of_ne_zero (ofList_size_ne_zero full)
    · intro user member
      rw [(CredentialTable.ofList_users _).2, List.map_map] at member
      obtain ⟨entry, listed, rfl⟩ := List.mem_map.1 member
      exact (credentialOf_proper (proper entry listed)).2.2

theorem ofOptions_exact (o : Options) :
    let entries := o.credentials.getD defaultCredentials
    let proper := ∀ entry ∈ entries, ¬ Improper entry
    (∀ entry, ofOptions o = .error (.invalidCredential entry) ↔ First Improper entries entry) ∧
    (ofOptions o = .error .noCredentials ↔ entries = []) ∧
    (∀ which, ofOptions o = .error (.zeroBuffer which) ↔ proper ∧ entries ≠ [] ∧
      First (fun b => o.limits.size b = 0) [.request, .reply, .tunnel] which) ∧
    ((∃ s, ofOptions o = .ok s) ↔ proper ∧ entries ≠ [] ∧ ∀ which, o.limits.size which ≠ 0) ∧
    ∀ s, ofOptions o = .ok s → Holds o s := by
  intro entries proper
  simp only [makes_exact]
  refine ⟨?_, ?_, ?_, ?_, fun s => Makes.holds⟩
  · intro entry
    constructor
    · intro makes
      cases makes with
      | improper first => exact first
    · exact .improper
  · constructor
    · intro makes
      cases makes with
      | nothing empty => exact empty
    · exact .nothing
  · intro which
    constructor
    · intro makes
      cases makes with
      | zero proper full first => exact ⟨proper, full, first⟩
    · intro parts
      exact .zero parts.1 parts.2.1 parts.2.2
  · constructor
    · intro made
      obtain ⟨s, makes⟩ := made
      cases makes with
      | settings proper full room => exact ⟨proper, full, room⟩
    · intro parts
      exact ⟨_, .settings parts.1 parts.2.1 parts.2.2⟩

end Settings

-- What a value has to be for the entries that a proxy is configured with. Of two entries with one
-- user name the later counts.
def Granted (entries : List Text) (value user : Text) : Prop :=
  ∃ earlier entry later password before after,
    entries = earlier ++ entry :: later ∧
    entry = user ++ ':' :: password ∧ ':' ∉ user ∧
    (∀ other ∈ later, ∀ rest, other ≠ user ++ ':' :: rest) ∧
    Text.Blank before ∧ Text.Blank after ∧
    value = basicScheme ++ before ++ Base64.encode (Text.utf8 entry) ++ after

namespace CredentialTable

theorem judge_accepted {table : CredentialTable} {value user : Text} :
    table.judge (some value) = .accepted user ↔
      ∃ password, Credential.ofBasic? value = some ⟨user, password⟩ ∧
        table.password? user = some password := by
  unfold judge
  dsimp only
  constructor
  · intro judged
    split at judged
    · rename_i c read
      split at judged
      · rename_i accepted
        cases judged
        exact ⟨c.password, read, of_decide_eq_true accepted⟩
      · cases judged
    · cases judged
  · rintro ⟨password, read, held⟩
    have accepted : table.accepts ⟨user, password⟩ = true := decide_eq_true held
    simp [read, accepted]

theorem judge_some (table : CredentialTable) (value : Text) :
    table.judge (some value) = .invalid ∨ ∃ user, table.judge (some value) = .accepted user := by
  unfold judge
  dsimp only
  split
  · split
    · exact .inr ⟨_, rfl⟩
    · exact .inl rfl
  · exact .inl rfl

end CredentialTable

theorem granted_exact {credentials : List Credential}
    (proper : ∀ c ∈ credentials, Settings.Proper c) {value user : Text} :
    Granted (credentials.map Credential.toPair) value user ↔
      ∃ password, Credential.ofBasic? value = some ⟨user, password⟩ ∧
        (CredentialTable.ofList credentials).password? user = some password := by
  constructor
  · rintro ⟨earlier, entry, later, password, before, after, whole, rfl, clear, others, front, back,
      rfl⟩
    refine ⟨password, Credential.ofBasic?_exact.mpr ⟨clear, before, after, front, back, rfl⟩, ?_⟩
    obtain ⟨first, rest, rfl, rfl, split⟩ := List.map_eq_append_iff.mp whole
    obtain ⟨c, last, rfl, same, rfl⟩ := List.map_eq_cons_iff.mp split
    have equal : c = ⟨user, password⟩ :=
      Credential.toPair_injective (proper c (by simp)).1 clear same
    refine CredentialTable.ofList_password?.mpr ⟨first, last, by rw [equal], ?_⟩
    intro d member named
    apply others d.toPair (List.mem_map_of_mem member) d.password
    rw [← named]
    rfl
  · rintro ⟨password, read, held⟩
    obtain ⟨clear, before, after, front, back, rfl⟩ := Credential.ofBasic?_exact.mp read
    obtain ⟨earlier, later, rfl, others⟩ := CredentialTable.ofList_password?.mp held
    refine ⟨earlier.map Credential.toPair, _, later.map Credential.toPair, password, before, after,
      List.map_append, rfl, clear, ?_, front, back, rfl⟩
    intro other member rest same
    obtain ⟨d, inside, rfl⟩ := List.mem_map.mp member
    have equal : d = ⟨user, rest⟩ :=
      Credential.toPair_injective (proper d (by simp [inside])).1 clear same
    exact others d inside (by rw [equal])

-- Who is let in is decided by the configured entries alone, entry by entry.
theorem judge_configured {o : Options} {settings : Settings}
    (accepted : Settings.ofOptions o = .ok settings) (value : Text) :
    (∀ user, settings.credentials.judge (some value) = .accepted user ↔
      Granted (o.credentials.getD Settings.defaultCredentials) value user) ∧
    (settings.credentials.judge (some value) = .invalid ↔
      ∀ user, ¬ Granted (o.credentials.getD Settings.defaultCredentials) value user) ∧
    settings.credentials.judge (some value) ≠ .missing := by
  obtain ⟨credentials, read, table⟩ := Settings.credentials_of_ofOptions accepted
  obtain ⟨entries, proper⟩ := Settings.readEntries_exact.mp read
  have exact : ∀ user, settings.credentials.judge (some value) = .accepted user ↔
      Granted (o.credentials.getD Settings.defaultCredentials) value user := by
    intro user
    rw [entries, table, granted_exact proper]
    exact CredentialTable.judge_accepted
  refine ⟨exact, ?_, ?_⟩
  · constructor
    · intro refused user granted
      rw [(exact user).mpr granted] at refused
      cases refused
    · intro none
      rcases settings.credentials.judge_some value with refused | ⟨user, judged⟩
      · exact refused
      · exact absurd ((exact user).mp judged) (none user)
  · intro missing
    rcases settings.credentials.judge_some value with refused | ⟨user, judged⟩
    · rw [missing] at refused
      cases refused
    · rw [missing] at judged
      cases judged

-- Two entries of one user, and a value with blanks around the token of the later.
theorem judge_configured_repeated :
    ∃ settings,
      Settings.ofOptions { credentials := some ["u:a".toList, "v:b:c".toList, "u:d".toList] } =
        .ok settings ∧
      settings.credentials.judge (some "Basic \tdTpk ".toList) = .accepted "u".toList := by
  have granted : Granted ["u:a".toList, "v:b:c".toList, "u:d".toList] "Basic \tdTpk ".toList
      "u".toList := by
    refine ⟨["u:a".toList, "v:b:c".toList], "u:d".toList, [], "d".toList, ['\t'], [' '], rfl, rfl,
      by decide, by simp, ?_, ?_, rfl⟩
    · intro c member
      rw [List.mem_singleton.mp member]
      rfl
    · intro c member
      rw [List.mem_singleton.mp member]
      rfl
  obtain ⟨settings, accepted⟩ : ∃ settings, Settings.ofOptions
      { credentials := some ["u:a".toList, "v:b:c".toList, "u:d".toList] } = .ok settings := ⟨_, rfl⟩
  exact ⟨settings, accepted, ((judge_configured accepted _).1 _).mpr granted⟩

end GatedProxy
