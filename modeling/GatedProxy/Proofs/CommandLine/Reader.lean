import GatedProxy.Proofs.CommandLine.Spelling

namespace GatedProxy.CommandLine

theorem ofLong?_long (o : Opt) : ofLong? o.long.toList = some (.opt o) := by
  cases o <;> decide +kernel

theorem long_clear (o : Opt) : '=' ∉ o.long.toList := by
  cases o <;> decide +kernel

theorem long_dashes (o : Opt) : ∃ c name, o.long.toList = '-' :: '-' :: c :: name := by
  cases o <;> exact ⟨_, _, rfl⟩

theorem long_append_ne (o : Opt) (t : Text) : o.long.toList ++ t ≠ ['-', '-'] := by
  obtain ⟨c, name, dashes⟩ := long_dashes o
  rw [dashes]
  intro equal
  cases equal

theorem ofShort?_short {o : Opt} {c : Char} (letter : o.short? = some c) :
    ofShort? c = some (.opt o) ∧ c ≠ '-' := by
  cases o with
  | port =>
    cases letter
    exact ⟨by decide, by decide⟩
  | _ => cases letter

namespace Draft

variable {d e : Draft} {u : Use} {t : Text} {args rest : List Text}

theorem argument_named (d : Draft) (o : Opt) (t : Text) :
    d.argument (o.long.toList ++ t) = d.longArgument (o.long.toList ++ t) := by
  obtain ⟨c, name, dashes⟩ := long_dashes o
  rw [dashes]
  rfl

theorem argument_long (d : Draft) (o : Opt) : d.argument o.long.toList = d.option o none := by
  have named := argument_named d o []
  rw [List.append_nil] at named
  rw [named, longArgument, Text.splitFirst_clear (long_clear o)]
  simp only [ofLong?_long]

theorem argument_attached (d : Draft) (o : Opt) (t : Text) :
    d.argument (o.long.toList ++ '=' :: t) = d.option o (some t) := by
  rw [argument_named, longArgument, Text.splitFirst_append t (long_clear o)]
  simp only [ofLong?_long]

theorem argument_short (d : Draft) {o : Opt} {c : Char} (letter : o.short? = some c) :
    d.argument ['-', c] = d.option o none := by
  obtain ⟨known, dash⟩ := ofShort?_short letter
  have unchanged : d.argument ['-', c] = d.shortArgument c [] := by
    simp [argument]
  rw [unchanged, shortArgument, known]

theorem argument_plain (d : Draft) (plain : t.head? ≠ some '-') :
    d.argument t = d.plainArgument t := by
  unfold argument
  split
  · exact absurd rfl plain
  · exact absurd rfl plain
  · rfl

theorem arguments_cons {arg : Text} (other : arg ≠ ['-', '-']) {f : Draft}
    (read : d.argument arg = .ok f) : d.arguments (arg :: rest) = f.arguments rest := by
  rw [arguments]
  · rw [read]
    rfl
  · intro equal _
    exact other equal
  · intro _ _ equal _
    exact other equal

theorem arguments_apart {name : Text} (first : d.argument name = d.option u.opt none)
    (option : name ≠ ['-', '-']) (settled : d.settle = .ok e) (idle : e.pending = none)
    (spelled : u.Spelled t) (plain : t.head? ≠ some '-') (fresh : e.value? u.opt = none) :
    ∃ f : Draft, d.arguments ([name, t] ++ rest) = f.arguments rest ∧ f.settle = .ok (e.put u) := by
  let named : Draft := { e with pending := some (u.opt, none) }
  let kept : Draft := { e with pending := some (u.opt, some t) }
  have understood : d.argument name = .ok named := by
    rw [first, Draft.option, settled]
    rfl
  have taken : named.argument t = .ok kept := by
    rw [argument_plain named plain]
    rfl
  have value : t ≠ ['-', '-'] := by
    intro dashes
    rw [dashes] at plain
    exact plain rfl
  have same : { kept with pending := none } = e := by
    rw [← idle]
  refine ⟨kept, ?_, ?_⟩
  · rw [List.cons_append, List.cons_append, arguments_cons option understood,
      arguments_cons value taken]
    rfl
  · change take { kept with pending := none } u.opt t = _
    rw [same]
    exact take_spelled spelled fresh

theorem arguments_written (written : u.Written args) (settled : d.settle = .ok e)
    (idle : e.pending = none) (fresh : e.value? u.opt = none) (rest : List Text) :
    ∃ f : Draft, d.arguments (args ++ rest) = f.arguments rest ∧ f.settle = .ok (e.put u) := by
  cases written with
  | apart spelled plain =>
    have option := long_append_ne u.opt []
    rw [List.append_nil] at option
    exact arguments_apart (argument_long d u.opt) option settled idle spelled plain fresh
  | short spelled plain letter =>
    have option := (ofShort?_short letter).2
    exact arguments_apart (argument_short d letter) (by simpa using option) settled idle spelled
      plain fresh
  | @attached t spelled =>
    have option := long_append_ne u.opt ('=' :: t)
    have read : d.argument (u.opt.long.toList ++ '=' :: t) = .ok (e.put u) := by
      rw [argument_attached, Draft.option, settled]
      exact take_spelled spelled fresh
    have done : (e.put u).settle = .ok (e.put u) := by
      rw [settle, put_pending, idle]
    exact ⟨e.put u, arguments_cons option read, done⟩

theorem put_fresh {later : Use} (fresh : e.value? later.opt = none)
    (once : u.opt = later.opt → u.opt = .credentials) : (e.put u).value? later.opt = none := by
  cases u with
  | credentials pairs => rw [put_credentials_value, fresh]
  | value v =>
    rw [put_value, fresh]
    refine if_neg ?_
    intro same
    exact v.opt_ne_credentials (once same)

-- By induction on the uses. What carries it is not the draft itself, which may still keep the last
-- value, but what it is once that value is read.
theorem arguments_uses {uses : List Use} (written : Written uses args) (once : Once uses)
    (settled : d.settle = .ok e) (idle : e.pending = none)
    (fresh : ∀ u ∈ uses, e.value? u.opt = none) : d.arguments args = .ok (uses.foldl put e) := by
  induction written generalizing d e with
  | nil => exact settled
  | @cons uses rest u args written later ih =>
    obtain ⟨first, others⟩ := List.pairwise_cons.1 once
    obtain ⟨free, freeLater⟩ := List.forall_mem_cons.1 fresh
    obtain ⟨f, read, settled⟩ := arguments_written written settled idle free rest
    rw [read, List.foldl_cons]
    apply ih others settled
    · rw [put_pending, idle]
    · intro w member
      exact put_fresh (freeLater w member) (first w member)

theorem foldl_left {uses : List Use} {o : Opt} (left : ∀ w, .value w ∈ uses → w.opt ≠ o) :
    (uses.foldl put e).value? o = e.value? o := by
  induction uses generalizing e with
  | nil => rfl
  | cons u uses ih =>
    rw [List.foldl_cons, ih fun w member => left w (List.mem_cons_of_mem u member)]
    cases u with
    | credentials pairs => rw [put_credentials_value]
    | value v => rw [put_value, if_neg (left v List.mem_cons_self)]

theorem foldl_value {uses : List Use} {v : Setting} (once : Once uses)
    (member : .value v ∈ uses) : (uses.foldl put e).value? v.opt = some v := by
  induction uses generalizing e with
  | nil => cases member
  | cons u uses ih =>
    obtain ⟨first, others⟩ := List.pairwise_cons.1 once
    rcases List.mem_cons.1 member with rfl | later
    · have left : ∀ w, .value w ∈ uses → w.opt ≠ v.opt := by
        intro w later same
        exact v.opt_ne_credentials (first _ later same.symm)
      rw [List.foldl_cons, foldl_left left, put_value, if_pos rfl]
    · exact ih others later

theorem foldl_exact {uses : List Use} {o : Opt} {v : Setting} (once : Once uses) :
    (uses.foldl put {}).value? o = some v ↔ v.opt = o ∧ .value v ∈ uses := by
  constructor
  · intro found
    by_cases given : ∃ w, .value w ∈ uses ∧ w.opt = o
    · obtain ⟨w, member, rfl⟩ := given
      rw [foldl_value once member] at found
      cases found
      exact ⟨rfl, member⟩
    · have left : ∀ w, .value w ∈ uses → w.opt ≠ o :=
        fun w member same => given ⟨w, member, same⟩
      rw [foldl_left left] at found
      cases o <;> cases found
  · intro given
    obtain ⟨rfl, member⟩ := given
    exact foldl_value once member

theorem foldl_credentials {uses : List Use} (fallback : List Text)
    (full : ∀ pairs, .credentials pairs ∈ uses → pairs ≠ []) :
    (uses.foldl put e).credentials.getD fallback =
      if uses.flatMap Use.entries = [] then e.credentials.getD fallback
      else e.credentials.getD [] ++ uses.flatMap Use.entries := by
  induction uses generalizing e with
  | nil => rfl
  | cons u uses ih =>
    have later := fun pairs member => full pairs (List.mem_cons_of_mem u member)
    rw [List.foldl_cons, ih later, List.flatMap_cons]
    cases u with
    | value v => rw [put_value_credentials, Use.entries, List.nil_append]
    | credentials pairs =>
      have filled : pairs ≠ [] := full pairs List.mem_cons_self
      have sum : (e.put (.credentials pairs)).credentials = some (e.credentials.getD [] ++ pairs) :=
        rfl
      rw [sum, Use.entries, if_neg (List.append_ne_nil_of_left_ne_nil filled _)]
      by_cases last : uses.flatMap Use.entries = []
      · rw [if_pos last, last, List.append_nil]
        rfl
      · rw [if_neg last, ← List.append_assoc]
        rfl

theorem given_zero {size : Option Nat} {n : Nat} (room : n ≠ 0) (zero : size.getD n = 0) :
    size = some 0 := by
  cases size with
  | none => exact absurd zero room
  | some m => exact congrArg some zero

theorem toOptions_room (room : ∀ which, d.value? (Setting.size which 0).opt ≠ some (.size which 0)) :
    ∀ which, d.toOptions.limits.size which ≠ 0 := by
  intro which zero
  apply room which
  cases which with
  | request => exact congrArg (Option.map (Setting.size .request)) (given_zero (by decide) zero)
  | reply => exact congrArg (Option.map (Setting.size .reply)) (given_zero (by decide) zero)
  | tunnel => exact congrArg (Option.map (Setting.size .tunnel)) (given_zero (by decide) zero)

end Draft

def setting? (s : Settings) : Opt → Option Setting
  | .listenIp => some (.listenIp s.listen.ip)
  | .port => some (.port s.listen.port)
  | .credentials => none
  | .requestBuffer => some (.size .request s.limits.request)
  | .replyBuffer => some (.size .reply s.limits.reply)
  | .tunnelBuffer => some (.size .tunnel s.limits.tunnel)
  | .statusInterval => some (.statusInterval s.statusInterval)

def defaultSetting? : Opt → Option Setting
  | .listenIp => some (.listenIp (.v4 .unspecified))
  | .port => some (.port 8091)
  | .credentials => none
  | .requestBuffer => some (.size .request 4096)
  | .replyBuffer => some (.size .reply 4096)
  | .tunnelBuffer => some (.size .tunnel 4096)
  | .statusInterval => some (.statusInterval 300)

def entries (uses : List Use) : List Text :=
  if uses.flatMap Use.entries = [] then Settings.defaultCredentials else uses.flatMap Use.entries

-- The settings are what the uses say, and the defaults where they say nothing. Of the entries for
-- one user the last counts, in whichever use it is.
structure Sets (uses : List Use) (s : Settings) : Prop where
  given : ∀ v, .value v ∈ uses → setting? s v.opt = some v
  left : ∀ o, (∀ v, .value v ∈ uses → v.opt ≠ o) → setting? s o = defaultSetting? o
  credentials : s.credentials = .ofList ((entries uses).map Settings.credentialOf)
  accepts : ∀ user password, s.credentials.accepts ⟨user, password⟩ = true ↔
    Settings.Latest (entries uses) user password

variable {uses : List Use} {args : List Text}

theorem some_getD {α β : Type} (kept : Option α) (other : α) (f : α → β) :
    some (f (kept.getD other)) = (kept.map f).or (some (f other)) := by
  cases kept with
  | none => rfl
  | some x => rfl

theorem setting?_draft {d : Draft} {s : Settings} (made : Settings.Holds d.toOptions s) (o : Opt) :
    setting? s o = (d.value? o).or (defaultSetting? o) := by
  cases o with
  | credentials => rfl
  | listenIp =>
    rw [setting?, made.listen]
    exact some_getD d.listenIp _ Setting.listenIp
  | port =>
    rw [setting?, made.listen]
    exact some_getD d.port _ Setting.port
  | requestBuffer =>
    rw [setting?, made.limits]
    exact some_getD d.request _ (Setting.size .request)
  | replyBuffer =>
    rw [setting?, made.limits]
    exact some_getD d.reply _ (Setting.size .reply)
  | tunnelBuffer =>
    rw [setting?, made.limits]
    exact some_getD d.tunnel _ (Setting.size .tunnel)
  | statusInterval =>
    rw [setting?, made.statusInterval]
    exact some_getD d.statusInterval _ Setting.statusInterval

theorem default_spelled {o : Opt} {text : String} (shown : o.default? = some text) :
    ∃ v, defaultSetting? o = some v ∧ v.opt = o ∧ v.Spelled text.toList := by
  have interval : Text.Numeral "300".toList 300 := Text.numeral_exact.2 rfl
  have buffer : Text.Numeral "4096".toList 4096 := Text.numeral_exact.2 rfl
  cases o with
  | credentials => cases shown
  | listenIp =>
    cases shown
    exact ⟨_, rfl, rfl, .listenIp (by decide +kernel)⟩
  | port =>
    cases shown
    exact ⟨_, rfl, rfl, .port (Text.numeral_exact.2 rfl)⟩
  | statusInterval =>
    cases shown
    exact ⟨_, rfl, rfl, .statusInterval interval (by decide)⟩
  | requestBuffer | replyBuffer | tunnelBuffer =>
    cases shown
    exact ⟨_, rfl, rfl, .size buffer (by decide) (by decide)⟩

theorem Written.spelled (written : Written uses args) : ∀ u ∈ uses, ∃ t, u.Spelled t := by
  induction written with
  | nil => exact List.forall_mem_nil _
  | cons first later ih =>
    refine List.forall_mem_cons.2 ⟨?_, ih⟩
    cases first with
    | apart spelled plain => exact ⟨_, spelled⟩
    | attached spelled => exact ⟨_, spelled⟩
    | short spelled plain letter => exact ⟨_, spelled⟩

theorem Written.full (written : Written uses args) :
    ∀ pairs, .credentials pairs ∈ uses → pairs ≠ [] ∧ ∀ entry ∈ pairs, ¬ Settings.Improper entry := by
  intro pairs member
  obtain ⟨t, spelled⟩ := written.spelled _ member
  cases spelled with
  | credentials full proper => exact ⟨full, fun entry listed => (proper entry listed).2⟩

theorem Written.room (written : Written uses args) (which : Buffer) :
    .value (.size which 0) ∉ uses := by
  intro member
  obtain ⟨t, spelled⟩ := written.spelled _ member
  cases spelled with
  | value spelled =>
    cases spelled with
    | size number full room => exact full rfl

theorem entries_proper (written : Written uses args) :
    entries uses ≠ [] ∧ ∀ entry ∈ entries uses, ¬ Settings.Improper entry := by
  unfold entries
  split
  · exact ⟨by decide, by decide +kernel⟩
  · refine ⟨‹_›, ?_⟩
    intro entry member
    obtain ⟨u, listed, said⟩ := List.mem_flatMap.1 member
    cases u with
    | value v => cases said
    | credentials pairs => exact (written.full pairs listed).2 entry said

theorem read_written (written : Written uses args) (once : Once uses) :
    ∃ o s, read args = .ok o ∧ Settings.ofOptions o = .ok s ∧ Sets uses s := by
  let d : Draft := uses.foldl Draft.put {}
  have understood : Draft.arguments {} args = .ok d := by
    refine Draft.arguments_uses written once rfl rfl ?_
    intro u _
    cases u.opt <;> rfl
  have said : d.toOptions.credentials.getD Settings.defaultCredentials = entries uses :=
    Draft.foldl_credentials _ fun pairs member => (written.full pairs member).1
  obtain ⟨full, proper⟩ := entries_proper written
  rw [← said] at full proper
  have room : ∀ which, d.toOptions.limits.size which ≠ 0 := by
    refine Draft.toOptions_room ?_
    intro which zero
    exact written.room which ((Draft.foldl_exact once).1 zero).2
  have makes := Settings.Makes.settings proper full room
  have holds := makes.holds
  refine ⟨d.toOptions, _, ?_, makes.ofOptions, ?_, ?_, ?_, ?_⟩
  · rw [read, understood]
    rfl
  · intro v member
    rw [setting?_draft holds, Draft.foldl_value once member]
    rfl
  · intro o left
    rw [setting?_draft holds, Draft.foldl_left left]
    cases o <;> rfl
  · rw [said]
  · rw [← said]
    exact holds.accepts

theorem read_written_mixed :
    let uses : List Use := [
      .credentials ["u:a".toList, "v:b:c".toList], .value (.port 8080), .credentials ["-w:d".toList],
      .value (.statusInterval 18446744073709551615), .value (.listenIp (.v4 ⟨127, 0, 0, 1⟩)),
      .credentials ["u:z".toList]]
    let args : List Text := [
      "--credentials".toList, "u:a,v:b:c".toList, "-p".toList, "+08080".toList,
      "--credentials=-w:d".toList, "--status-interval=18446744073709551615".toList,
      "--listen-ip".toList, "127.0.0.1".toList, "--credentials".toList, "u:z".toList]
    Written uses args ∧ Once uses ∧
      ∃ o s, read args = .ok o ∧ Settings.ofOptions o = .ok s ∧ Sets uses s := by
  intro uses args
  have once : Once uses := by
    unfold Once
    decide
  have written : Written uses args := by
    have credentials := Use.Written.apart (u := .credentials ["u:a".toList, "v:b:c".toList])
      (.credentials (by decide) (by decide)) (by decide)
    have port := Use.Written.short (u := .value (.port 8080)) (t := "+08080".toList) (c := 'p')
      (.value (.port (Text.numeral_exact.2 rfl))) (by decide) rfl
    have dashed := Use.Written.attached (u := .credentials ["-w:d".toList])
      (.credentials (by decide) (by decide))
    have interval := Use.Written.attached (u := .value (.statusInterval 18446744073709551615))
      (t := "18446744073709551615".toList)
      (.value (.statusInterval (Text.numeral_exact.2 rfl) (by decide)))
    have address := Use.Written.apart (u := .value (.listenIp (.v4 ⟨127, 0, 0, 1⟩)))
      (t := "127.0.0.1".toList) (.value (.listenIp (by decide +kernel))) (by decide)
    have again := Use.Written.apart (u := .credentials ["u:z".toList])
      (.credentials (by decide) (by decide)) (by decide)
    exact .cons credentials (.cons port (.cons dashed (.cons interval (.cons address
      (.cons again .nil)))))
  exact ⟨written, once, read_written written once⟩

end GatedProxy.CommandLine
