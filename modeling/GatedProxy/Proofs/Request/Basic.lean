import GatedProxy.Proofs.Text.Cut
import GatedProxy.Proofs.Text.Lines
import GatedProxy.Proofs.Text.Utf8
import GatedProxy.Request

namespace GatedProxy

theorem Text.ofUtf8?_eq_none {bytes : Bytes} :
    ofUtf8? bytes = none ↔ ∀ text, bytes ≠ utf8 text := by
  rw [Option.eq_none_iff_forall_ne_some]
  exact forall_congr' fun text => not_congr utf8_exact

namespace Request

variable {bytes raw : Bytes} {r : Request}

theorem parse_ok (parsed : parse bytes = .ok r) : r.raw = bytes := by
  unfold parse at parsed
  split at parsed
  · cases parsed
  · split at parsed
    · cases parsed
    · cases parsed
      rfl

theorem parse_error (full : bytes ≠ []) (failed : parse bytes = .error e) :
    e = .encoding ∧ Text.ofUtf8? bytes = none := by
  unfold parse at failed
  split at failed
  · rename_i empty
    exact absurd (List.isEmpty_iff.1 empty) full
  · split at failed
    · rename_i garbled
      cases failed
      exact ⟨rfl, garbled⟩
    · cases failed

theorem parse_utf8 (text : Text) (full : text ≠ []) :
    parse (Text.utf8 text) = .ok {
      raw := Text.utf8 text
      line := (Text.crlfLines text).1
      others := (Text.crlfLines text).2 } := by
  have bytes : Text.utf8 text ≠ [] := by
    intro none
    have read := Text.utf8_roundtrip text
    rw [none] at read
    exact full (Option.some.inj read).symm
  simp [parse, bytes, Text.utf8_roundtrip]

theorem parse_garbled {raw : Bytes} (garbled : ∀ text, raw ≠ Text.utf8 text) :
    parse raw = .error .encoding := by
  have full : raw ≠ [] := garbled []
  simp [parse, full, Text.ofUtf8?_eq_none.2 garbled]

-- What a request keeps of the bytes that were read: all of them, and the same as lines.
structure Keeps (r : Request) (raw : Bytes) : Prop where
  bytes : r.raw = raw
  lines : raw = Text.utf8 (Text.joinCrlf r.line r.others)
  unbroken : ∀ l ∈ r.line :: r.others, Text.Unbroken l

theorem parse_empty : parse raw = .error .empty ↔ raw = [] := by
  constructor
  · intro failed
    by_cases empty : raw = []
    · exact empty
    · cases (parse_error empty failed).1
  · intro empty
    rw [empty]
    rfl

theorem parse_encoding :
    parse raw = .error .encoding ↔ raw ≠ [] ∧ ∀ text, raw ≠ Text.utf8 text := by
  constructor
  · intro failed
    have full : raw ≠ [] := by
      intro empty
      rw [parse_empty.2 empty] at failed
      cases failed
    exact ⟨full, Text.ofUtf8?_eq_none.1 (parse_error full failed).2⟩
  · intro garbled
    exact parse_garbled garbled.2

theorem Keeps.parse (keeps : Keeps r raw) (full : raw ≠ []) : parse raw = .ok r := by
  obtain ⟨same, lines, unbroken⟩ := keeps
  have text : Text.joinCrlf r.line r.others ≠ [] := by
    intro none
    rw [none] at lines
    exact full lines
  have pieces := Text.crlfLines_exact.2 ⟨rfl, unbroken⟩
  rw [lines, parse_utf8 _ text, pieces, ← lines, ← same]

theorem keeps_lines (text : Text) :
    Keeps ⟨Text.utf8 text, (Text.crlfLines text).1, (Text.crlfLines text).2⟩ (Text.utf8 text) := by
  obtain ⟨whole, unbroken⟩ := Text.joinCrlf_crlfLines text
  exact ⟨rfl, congrArg Text.utf8 whole.symm, unbroken⟩

theorem parse_text (full : raw ≠ []) (text : Text) (written : raw = Text.utf8 text) :
    ∃ r, parse raw = .ok r ∧ Keeps r raw := by
  rw [written] at full ⊢
  have keeps := keeps_lines text
  exact ⟨_, keeps.parse full, keeps⟩

theorem parse_keeps : parse raw = .ok r ↔ raw ≠ [] ∧ Keeps r raw := by
  constructor
  · intro parsed
    have full : raw ≠ [] := by
      intro empty
      rw [parse_empty.2 empty] at parsed
      cases parsed
    by_cases legible : ∃ text, raw = Text.utf8 text
    · obtain ⟨text, written⟩ := legible
      obtain ⟨other, found, keeps⟩ := parse_text full text written
      cases found.symm.trans parsed
      exact ⟨full, keeps⟩
    · rw [parse_encoding.2 ⟨full, not_exists.1 legible⟩] at parsed
      cases parsed
  · intro kept
    exact kept.2.parse kept.1

theorem takeWhile_full {before : List Text} (full : [] ∉ before) (later : List Text) :
    (before ++ later).takeWhile (fun l => !l.isEmpty) =
      before ++ later.takeWhile fun l => !l.isEmpty := by
  apply List.takeWhile_append_of_pos
  intro l member
  cases l with
  | nil => exact absurd member full
  | cons c l => rfl

theorem headers_append {before after : List Text} (lines : r.others = before ++ [] :: after)
    (full : [] ∉ before) : r.headers = before := by
  rw [headers, lines, takeWhile_full full]
  exact List.append_nil before

theorem nil_not_mem_headers : [] ∉ r.headers := by
  intro member
  have full := List.all_eq_true.1 List.all_takeWhile _ member
  simp at full

theorem prefix_headers {before : List Text} (begins : before <+: r.others) (full : [] ∉ before) :
    before <+: r.headers := by
  obtain ⟨later, lines⟩ := begins
  rw [headers, ← lines, takeWhile_full full]
  exact List.prefix_append before _

theorem others_eq_headers (ended : [] ∈ r.others) :
    ∃ after, r.others = r.headers ++ [] :: after := by
  obtain ⟨before, after, lines, full⟩ := List.eq_append_cons_of_mem ended
  rw [headers_append lines full]
  exact ⟨after, lines⟩

theorem Keeps.headers (keeps : Keeps r raw) {after : List Text}
    (lines : r.others = r.headers ++ [] :: after) :
    Text.utf8 (Text.ended (r.line :: r.headers) ++ if after = [] then [] else Text.crlf) <+: raw := by
  rw [keeps.lines, Text.utf8_prefix, lines, Text.joinCrlf_append, List.prefix_append_right_inj]
  cases after with
  | nil => exact List.nil_prefix
  | cons l after =>
    rw [if_neg (List.cons_ne_nil l after), Text.joinCrlf_cons]
    exact List.prefix_append Text.crlf _

theorem parse_lossless (raw : Bytes) :
    (parse raw = .error .empty ↔ raw = []) ∧
    (parse raw = .error .encoding ↔ raw ≠ [] ∧ ∀ text, raw ≠ Text.utf8 text) ∧
    (∀ text, raw ≠ [] → raw = Text.utf8 text → ∃ r, parse raw = .ok r) ∧
    (∀ r, parse raw = .ok r ↔ raw ≠ [] ∧ Keeps r raw) ∧
    ∀ r, parse raw = .ok r →
      r.headers <+: r.others ∧ [] ∉ r.headers ∧
      (∀ before, before <+: r.others → [] ∉ before → before <+: r.headers) ∧
      ([] ∈ r.others → ∃ after, r.others = r.headers ++ [] :: after ∧
        Text.utf8 (Text.ended (r.line :: r.headers) ++ if after = [] then [] else Text.crlf)
          <+: raw) := by
  refine ⟨parse_empty, parse_encoding, ?_, fun r => parse_keeps, ?_⟩
  · intro text full written
    obtain ⟨r, parsed, _⟩ := parse_text full text written
    exact ⟨r, parsed⟩
  · intro r parsed
    refine ⟨List.takeWhile_prefix _, nil_not_mem_headers, fun before => prefix_headers, ?_⟩
    intro ended
    obtain ⟨after, lines⟩ := others_eq_headers ended
    exact ⟨after, lines, (parse_keeps.1 parsed).2.headers lines⟩

example : Text.crlfLines "\r\n\na\r\r\n\r\nb\r".toList =
    ([], ["\na\r".toList, [], "b\r".toList]) := by decide +kernel

def Names (line : Text) : Prop :=
  ((Text.utf8 line).take 20).map Text.lowered = Text.utf8 authorizationName

instance (line : Text) : Decidable (Names line) := inferInstanceAs (Decidable (_ = _))

def Follows (line rest : Text) : Prop := Text.utf8 rest = (Text.utf8 line).drop 20

instance (line rest : Text) : Decidable (Follows line rest) := inferInstanceAs (Decidable (_ = _))

def Passed (line : Text) : Prop := ¬ Names line ∨ ∃ rest, Follows line rest ∧ Text.Blank rest

def Gives (line value : Text) : Prop :=
  Names line ∧ ∃ rest, Follows line rest ∧ value = Text.trim rest ∧ value ≠ []

-- The same search by cuts of the bytes. The first cut asks whether it can be made; the second one
-- does not ask, and where it cannot be made there is no answer at all.
def cutOn? (line : Text) : Option (Option Text) :=
  match Text.splitBytes? 20 line with
  | none => some none
  | some (name, _) =>
    if name.map Char.toLower = authorizationName then
      (Text.splitBytes? 20 line).map fun (_, rest) =>
        let value := Text.trim rest
        if value.isEmpty then none else some value
    else some none

theorem authorizationName_lower : authorizationName.map Char.toLower = authorizationName := by
  decide +kernel

theorem authorizationName_size : (Text.utf8 authorizationName).length = 20 := by decide +kernel

theorem authorizationName_ascii : ∀ b ∈ Text.utf8 authorizationName, b < 0x80 := by
  decide +kernel

theorem after_name {line rest : Text} :
    Text.afterAnyCase? authorizationName line = some rest ↔
      ∃ name, line = name ++ rest ∧ name.map Char.toLower = authorizationName := by
  rw [Text.afterAnyCase?_exact, authorizationName_lower]

theorem name_size {name : Text} (same : name.map Char.toLower = authorizationName) :
    (Text.utf8 name).length = 20 := by
  rw [← authorizationName_size, ← same, ← Text.utf8_lowered, List.length_map]

-- Bytes that are the name in some case are ASCII, so that no character goes across their end.
theorem names_exact {line : Text} :
    Names line ↔ ∃ name rest, line = name ++ rest ∧ name.map Char.toLower = authorizationName := by
  constructor
  · intro named
    have ascii : ∀ b ∈ (Text.utf8 line).take 20, b < 0x80 := by
      intro b member
      apply Text.ascii_of_lowered
      apply authorizationName_ascii
      rw [← named]
      exact List.mem_map_of_mem member
    have spelled := Text.utf8_scalars ascii
    have part := List.take_prefix 20 (Text.utf8 line)
    rw [← spelled] at part
    obtain ⟨rest, whole⟩ := Text.utf8_prefix.mp part
    refine ⟨_, rest, whole.symm, Text.utf8_injective ?_⟩
    rw [← Text.utf8_lowered, spelled]
    exact named
  · rintro ⟨name, rest, rfl, same⟩
    rw [Names, Text.utf8_append, List.take_left' (name_size same), Text.utf8_lowered, same]

theorem follows_name {name rest other : Text}
    (same : name.map Char.toLower = authorizationName) :
    Follows (name ++ rest) other ↔ other = rest := by
  rw [Follows, Text.utf8_append, List.drop_left' (name_size same)]
  exact ⟨Text.utf8_injective, congrArg Text.utf8⟩

theorem trim_blank {t : Text} : Text.trim t = [] ↔ Text.Blank t := by
  constructor
  · intro empty
    obtain ⟨before, after, front, back, whole⟩ := Text.trim_parts t
    rw [whole, empty, List.append_nil]
    intro c member
    rcases List.mem_append.1 member with first | last
    · exact front c first
    · exact back c last
  · intro blank
    exact (Text.trim_exact (List.forall_mem_nil _)).mpr ⟨t, [], blank, List.forall_mem_nil _, by simp⟩

theorem authorizationOn?_exact {line value : Text} :
    authorizationOn? line = some value ↔ Gives line value := by
  simp only [authorizationOn?, Option.bind_eq_bind, Option.bind_eq_some_iff, after_name]
  constructor
  · rintro ⟨rest, ⟨name, rfl, same⟩, kept⟩
    refine ⟨names_exact.mpr ⟨name, rest, rfl, same⟩, rest, (follows_name same).mpr rfl, ?_⟩
    split at kept
    · cases kept
    · rename_i full
      cases kept
      exact ⟨rfl, by simpa using full⟩
  · rintro ⟨named, rest, follows, rfl, full⟩
    obtain ⟨name, later, rfl, same⟩ := names_exact.mp named
    obtain rfl := (follows_name same).mp follows
    exact ⟨rest, ⟨name, rfl, same⟩, if_neg (by simpa using full)⟩

theorem authorizationOn?_none {line : Text} : authorizationOn? line = none ↔ Passed line := by
  constructor
  · intro none
    by_cases named : Names line
    · obtain ⟨name, rest, rfl, same⟩ := names_exact.mp named
      have follows : Follows (name ++ rest) rest := (follows_name same).mpr rfl
      refine .inr ⟨rest, follows, trim_blank.mp ?_⟩
      by_cases empty : Text.trim rest = []
      · exact empty
      · have given := authorizationOn?_exact.mpr ⟨named, rest, follows, rfl, empty⟩
        rw [none] at given
        cases given
    · exact .inl named
  · intro passed
    rw [Option.eq_none_iff_forall_ne_some]
    intro value given
    obtain ⟨named, rest, follows, rfl, full⟩ := authorizationOn?_exact.mp given
    rcases passed with other | ⟨again, followsToo, blank⟩
    · exact other named
    · rw [Text.utf8_injective (follows.trans followsToo.symm)] at full
      exact full (trim_blank.mpr blank)

theorem cutOn?_eq (line : Text) : cutOn? line = some (authorizationOn? line) := by
  unfold cutOn? authorizationOn?
  cases cut : Text.splitBytes? 20 line with
  | none =>
    have other : Text.afterAnyCase? authorizationName line = none := by
      rw [Option.eq_none_iff_forall_ne_some]
      intro rest found
      obtain ⟨name, whole, same⟩ := after_name.mp found
      rw [Text.splitBytes?_exact.mpr ⟨whole, name_size same⟩] at cut
      cases cut
    rw [other]
    rfl
  | some parts =>
    obtain ⟨name, rest⟩ := parts
    obtain ⟨rfl, size⟩ := Text.splitBytes?_exact.mp cut
    dsimp only
    split
    · rename_i same
      rw [after_name.mpr ⟨name, rfl, same⟩]
      rfl
    · rename_i other
      have none : Text.afterAnyCase? authorizationName (name ++ rest) = none := by
        rw [Option.eq_none_iff_forall_ne_some]
        intro later found
        obtain ⟨again, whole, same⟩ := after_name.mp found
        have found := Text.splitBytes?_exact.mpr ⟨whole, name_size same⟩
        rw [cut] at found
        cases found
        exact other same
      rw [none]
      rfl

-- The credentials are those of the first line that has any, by its bytes.
theorem authorization_exact {text line : Text} {others : List Text} (full : text ≠ [])
    (pieces : text = Text.joinCrlf line others)
    (unbroken : ∀ l ∈ line :: others, Text.Unbroken l) :
    ∃ r, parse (Text.utf8 text) = .ok r ∧ r.line = line ∧ r.others = others ∧
      (∀ value, r.authorization? = some value ↔ ∃ before l after,
        others = before ++ l :: after ∧ Gives l value ∧ ∀ m ∈ before, Passed m) ∧
      (r.authorization? = none ↔ ∀ l ∈ others, ∀ value, ¬ Gives l value) ∧
      ∀ l ∈ others, cutOn? l = some (authorizationOn? l) := by
  have lines : Text.crlfLines text = (line, others) := Text.crlfLines_exact.mpr ⟨pieces, unbroken⟩
  refine ⟨_, parse_utf8 text full, ?_, ?_, ?_, ?_, fun l _ => cutOn?_eq l⟩
  · rw [lines]
  · rw [lines]
  · intro value
    simp only [authorization?, lines, List.findSome?_eq_some_iff, authorizationOn?_exact,
      authorizationOn?_none]
  · simp only [authorization?, lines, List.findSome?_eq_none_iff]
    refine forall₂_congr fun l _ => ?_
    rw [Option.eq_none_iff_forall_ne_some]
    exact forall_congr' fun value => not_congr authorizationOn?_exact

-- A request line that looks like credentials, an empty line, a short one, one with a character across
-- its twentieth byte and one with a blank value come before the credentials, and others after them.
theorem authorization_exact_body :
    let line := "Proxy-Authorization: Basic x".toList
    let passed := ["", "Host", "proxy-authorizationé: Basic y", "Proxy-Authorization:\u3000"].map
      String.toList
    let given := "PROXY-authorization:\u00a0Basic v ".toList
    let others := passed ++ given :: ["proxy-authorization: Basic w".toList]
    (∀ l ∈ line :: others, Text.Unbroken l) ∧
      ∃ r, parse (Text.utf8 (Text.joinCrlf line others)) = .ok r ∧
        r.authorization? = some "Basic v".toList ∧
        cutOn? "proxy-authorizationé: Basic y".toList = some none := by
  intro line passed given others
  have lines : Text.crlfLines (Text.joinCrlf line others) = (line, others) := by decide +kernel
  obtain ⟨_, unbroken⟩ := Text.crlfLines_exact.mp lines
  have full : Text.joinCrlf line others ≠ [] := by decide +kernel
  obtain ⟨r, parsed, _, _, found, _, cuts⟩ := authorization_exact full rfl unbroken
  refine ⟨unbroken, r, parsed, (found _).mpr ?_, ?_⟩
  · refine ⟨passed, given, _, rfl, ⟨by decide +kernel, "\u00a0Basic v ".toList, ?_⟩, ?_⟩
    · decide +kernel
    · simp only [passed, List.map_cons, List.map_nil, List.forall_mem_cons]
      refine ⟨.inl ?_, .inl ?_, .inl ?_, .inr ⟨"\u3000".toList, ?_⟩, List.forall_mem_nil _⟩
      · decide +kernel
      · decide +kernel
      · decide +kernel
      · refine ⟨by decide +kernel, ?_⟩
        intro c member
        rw [List.mem_singleton.mp member]
        rfl
  · rw [cuts _ (by decide +kernel)]
    decide +kernel

end Request

end GatedProxy
