import GatedProxy.Proofs.Session.Establish
import GatedProxy.Proofs.Session.Table

namespace GatedProxy

namespace Journal

def reads (who : End) (j : Journal) : List Bytes :=
  j.filterMap fun
    | .read from_ data => if from_ = who then some data else none
    | _ => none

@[simp] theorem reads_append (who : End) (j k : Journal) :
    (j ++ k).reads who = j.reads who ++ k.reads who := List.filterMap_append

@[simp] theorem reads_nil (who : End) : reads who [] = [] := rfl

@[simp] theorem reads_read (who : End) (data : Bytes) : reads who [.read who data] = [data] := by
  simp [reads]

@[simp] theorem reads_wrote (who other : End) (data : Bytes) :
    reads who [.wrote other data] = [] := rfl

@[simp] theorem reads_log (who : End) (event : LogEvent) : reads who [.log event] = [] := rfl

@[simp] theorem received_nil (who : End) : received who [] = [] := rfl

@[simp] theorem received_read (who other : End) (data : Bytes) :
    received who [.read other data] = [] := rfl

@[simp] theorem received_log (who : End) (event : LogEvent) : received who [.log event] = [] := rfl

theorem taken_reads (who : End) (j : Journal) : j.taken who = (j.reads who).flatten := by
  induction j with
  | nil => rfl
  | cons o rest ih =>
    have split : taken who (o :: rest) = taken who [o] ++ taken who rest :=
      taken_append who [o] rest
    have apart : reads who (o :: rest) = reads who [o] ++ reads who rest :=
      reads_append who [o] rest
    rw [split, apart, List.flatten_append, ih]
    congr 1
    cases o with
    | read from_ data =>
      by_cases same : from_ = who <;> simp [taken, reads, same]
    | _ => rfl

theorem heard_reads (who : End) (c : Connection) (event : FarEvent) (other : End) :
    (Session.heard who c event).reads other = [] := by
  rcases Session.heard_cases who c event with none | ⟨data, one⟩
  · rw [none]
    rfl
  · rw [one]
    rfl

theorem Quiet.reads {j : Journal} (quiet : j.Quiet) (who : End) : j.reads who = [] := by
  apply List.filterMap_eq_nil_iff.2
  intro o member
  have still := quiet o member
  cases o with
  | read => cases still
  | _ => rfl

end Journal

namespace Session

def ending (s : Session) : Ending :=
  match s.phase with
  | .over _ result => .ofResult result
  | _ => .goesOn

def atRead? (p : Policy) (s : Session) (actions : List Action) : Option Connection :=
  (views (act p) (fun s a => if a = .read then some s.client else none) s actions).head?

def WriteFailed (p : Policy) (actions : List Action) (who : End) (e : SystemError) : Prop :=
  ∃ before size later middle opening c left, actions = before ++ .write size :: later ∧
    Session.run p {} before = some (middle, opening) ∧ middle.pending? = some (who, c, left) ∧
    left ≠ [] ∧ c.write left size = some (.error e)

theorem dialTo_silent (client : Connection) (dest : Authority) (errand : Errand)
    (progress : Dial.Progress) :
    (dialTo client dest errand progress).2.received .client = [] ∧
      (dialTo client dest errand progress).2.reads .upstream = [] := by
  cases progress with
  | waiting question => cases question <;> exact ⟨rfl, rfl⟩
  | failed e =>
    have quiet := finish_quiet client none (.error (.dial dest e))
    exact ⟨quiet.received .client, quiet.reads .upstream⟩
  | opened bytes => cases errand <;> exact ⟨rfl, rfl⟩

-- How far a session with two connections has come with what it owes its client.
inductive Exchanged (p : Policy) (given : Bytes) (reads : List Bytes) : Errand → Exchange → Prop where
  | establishes (unread : reads = [])
      (same : given ++ left = Response.bytes Response.established) :
      Exchanged p given reads .tunnel (.establishing left)
  | tunnels (same : given = Response.bytes Response.established ++ rest)
      (flow : (t.loop .down).Flow rest reads.flatten) :
      Exchanged p given reads .tunnel (.tunneling t)
  | requests (unread : reads = []) (nothing : given = []) :
      Exchanged p given reads (.relay request) (.sendingRequest left)
  | awaits (unread : reads = []) (nothing : given = []) :
      Exchanged p given reads (.relay request) .awaitingReply
  | replies (one : reads = [reply]) (bound : reply.length ≤ p.limits.reply)
      (same : given ++ left = reply) :
      Exchanged p given reads (.relay request) (.sendingReply reply.length left)

namespace Exchanged

variable {p : Policy} {given : Bytes} {reads : List Bytes} {errand : Errand} {t t' : Tunnel}
  {ends ends' : Ends} {journal : Journal} {upstream c : Connection}

theorem opens (exchanged : Exchanged p given reads errand (.establishing [])) :
    Exchanged p given reads errand (.tunneling {}) := by
  cases exchanged with
  | establishes unread same =>
    subst unread
    rw [List.append_nil] at same
    exact .tunnels (same.trans (List.append_nil _).symm) rfl

theorem asked (exchanged : Exchanged p given reads errand (.sendingRequest [])) :
    Exchanged p given reads errand .awaitingReply := by
  cases exchanged with
  | requests unread nothing => exact .awaits unread nothing

theorem takes (exchanged : Exchanged p given reads errand .awaitingReply)
    (took : upstream.read p.limits.reply = some (.ok data, c)) :
    Exchanged p given (reads ++ [data]) errand (.sendingReply data.length data) := by
  have bound : data.length ≤ p.limits.reply := by
    rw [(Connection.read_ok took).1]
    exact List.length_take_le ..
  cases exchanged with
  | awaits unread nothing =>
    subst unread nothing
    exact .replies rfl bound rfl

theorem copies (exchanged : Exchanged p given reads errand (.tunneling t))
    (moved : t.act p.limits.tunnel ends a = some (t', ends', journal)) :
    Exchanged p (given ++ journal.received .client) (reads ++ journal.reads .upstream) errand
      (.tunneling t') := by
  cases exchanged with
  | tunnels same flow =>
    rename_i rest
    have onward : (t'.loop .down).Flow (rest ++ journal.received .client)
        (reads.flatten ++ journal.taken .upstream) := (Tunnel.act_sound moved).flow .down flow
    rw [Journal.taken_reads, ← List.flatten_append] at onward
    exact .tunnels (by rw [same, List.append_assoc]) onward

end Exchanged

-- What a session owes its client in each phase.
inductive Owed (p : Policy) (first : Option Connection) (answers : List Dial.Answer)
    (cut : SystemError → Prop) (given : Bytes) (reads : List Bytes) : Phase → Prop where
  | waits (unread : first = none) (unasked : answers = []) (nothing : given = [])
      (fresh : reads = []) : Owed p first answers cut given reads .awaitingRequest
  | answers (row : Row.Applies p first (.judged (.answer response outcome)))
      (same : given ++ left = Response.bytes response) :
      Owed p first answers cut given reads (.answering left outcome)
  | dials (row : Row.Applies p first (.judged (.dial dest errand)))
      (reached : Dial.reached (Dial.start dest.host) answers = .waiting question)
      (nothing : given = []) (fresh : reads = []) :
      Owed p first answers cut given reads (.dialing dest errand question)
  | joins (row : Row.Applies p first (.judged (.dial dest errand)))
      (reached : Dial.reached (Dial.start dest.host) answers = .opened greeting)
      (exchanged : Exchanged p given reads errand exchange) :
      Owed p first answers cut given reads (.joined upstream dest exchange)
  | ended (applies : Row.Applies p first row)
      (told : Row.Told p answers cut given reads (.ofResult result) row) :
      Owed p first answers cut given reads (.over upstream result)

namespace Owed

variable {p : Policy} {first : Option Connection} {answers : List Dial.Answer}
  {cut later : SystemError → Prop} {given : Bytes} {reads : List Bytes} {s : Session}

theorem mono (weaker : ∀ e, cut e → later e) (owed : Owed p first answers cut given reads now) :
    Owed p first answers later given reads now := by
  cases owed with
  | waits unread unasked nothing fresh => exact .waits unread unasked nothing fresh
  | answers row same => exact .answers row same
  | dials row reached nothing fresh => exact .dials row reached nothing fresh
  | joins row reached exchanged => exact .joins row reached exchanged
  | ended applies told => exact .ended applies (told.mono weaker)

theorem ends (applies : Row.Applies p first row) (client : Connection)
    (upstream : Option Connection)
    (told : Row.Told p answers cut given reads (.ofResult result) row) :
    Owed p first answers cut given reads (endWith client upstream result).1.phase := by
  cases upstream <;> exact .ended applies told

theorem quiet {more : Journal} (quiet : more.Quiet)
    (owed : Owed p first answers cut given reads now) :
    Owed p first answers cut (given ++ more.received .client) (reads ++ more.reads .upstream) now := by
  rw [quiet.received, quiet.reads, List.append_nil, List.append_nil]
  exact owed

theorem finishes (applies : Row.Applies p first row)
    (told : Row.Told p answers cut given reads (.returned result) row) (client : Connection)
    (upstream : Option Connection) :
    let moved := finish client upstream result
    Owed p first answers cut (given ++ moved.2.received .client) (reads ++ moved.2.reads .upstream)
      moved.1.phase :=
  .quiet (finish_quiet client upstream result) (.ends applies client upstream told)

theorem finishes_after {more : Journal} (quiet : more.Quiet) (applies : Row.Applies p first row)
    (told : Row.Told p answers cut given reads (.returned result) row) (client : Connection)
    (upstream : Option Connection) :
    let moved := after more (finish client upstream result)
    Owed p first answers cut (given ++ moved.2.received .client) (reads ++ moved.2.reads .upstream)
      moved.1.phase :=
  .quiet (quiet.append (finish_quiet client upstream result)) (.ends applies client upstream told)

theorem breaks (applies : Row.Applies p first row)
    (told : Row.Told p answers cut given reads .broken row) (client : Connection)
    (upstream : Option Connection) :
    let moved := breakDown client upstream
    Owed p first answers cut (given ++ moved.2.received .client) (reads ++ moved.2.reads .upstream)
      moved.1.phase :=
  .quiet (breakDown_parting client upstream).quiet (.ends applies client upstream told)

theorem relayed (applies : Row.Applies p first row)
    (told : Row.Told p answers cut given reads (.returned (.ok (.relayed size))) row)
    (client upstream : Connection) :
    let moved := Session.relayed client upstream dest size
    Owed p first answers cut (given ++ moved.2.received .client) (reads ++ moved.2.reads .upstream)
      moved.1.phase :=
  .quiet (relayed_quiet client upstream dest size) (.ends applies _ _ told)

theorem setUpstream (owed : Owed p first answers cut given reads s.phase) (c : Connection) :
    Owed p first answers cut given reads (s.setUpstream c).phase := by
  unfold Session.setUpstream
  split
  · rename_i phase
    rw [phase] at owed
    cases owed with
    | joins row reached exchanged => exact .joins row reached exchanged
  · rename_i phase
    rw [phase] at owed
    cases owed with
    | ended applies told => exact .ended applies told
  all_goals exact owed

theorem dialTo (row : Row.Applies p first (.judged (.dial dest errand)))
    (reached : Dial.reached (Dial.start dest.host) answers = progress) (client : Connection) :
    let moved := Session.dialTo client dest errand progress
    Owed p first answers cut (moved.2.received .client) (moved.2.reads .upstream) moved.1.phase := by
  obtain ⟨silent, unread⟩ := dialTo_silent client dest errand progress
  dsimp only
  rw [silent, unread]
  cases progress with
  | waiting question => exact .dials row reached rfl rfl
  | failed e => exact .ends row client none (.undialed reached rfl)
  | opened bytes =>
    cases errand with
    | tunnel => exact .joins row reached (.establishes rfl rfl)
    | relay request => exact .joins row reached (.requests rfl rfl)

theorem wrote (owed : Owed p first answers cut given reads s.phase)
    (pending : s.pending? = some (who, c, left)) (split : accepted ++ rest = left) :
    Owed p first answers cut (given ++ Journal.received .client [.wrote who accepted]) reads
      (s.setPending rest).phase := by
  unfold pending? at pending
  split at pending <;> cases pending <;> rename_i phase <;> rw [phase] at owed <;>
    simp only [setPending, phase]
  · cases owed with
    | answers row same =>
      refine .answers row ?_
      rw [Journal.received_wrote, List.append_assoc, split, same]
  · cases owed with
    | joins row reached exchanged =>
      cases exchanged with
      | establishes unread same =>
        refine .joins row reached (.establishes unread ?_)
        rw [Journal.received_wrote, List.append_assoc, split, same]
  · cases owed with
    | joins row reached exchanged =>
      cases exchanged with
      | requests unread nothing =>
        exact .joins row reached (.requests unread ((List.append_nil _).trans nothing))
  · cases owed with
    | joins row reached exchanged =>
      cases exchanged with
      | replies one bound same =>
        refine .joins row reached (.replies one bound ?_)
        rw [Journal.received_wrote, List.append_assoc, split, same]

theorem writeFails (owed : Owed p first answers cut given reads s.phase)
    (pending : s.pending? = some (who, c, left)) (more : left ≠ [])
    (failed : who = .client → cut e) :
    Owed p first answers cut given reads (finish s.client s.upstream? (.error (.io e))).1.phase := by
  have part {bytes : Bytes} (same : given ++ left = bytes) : given <+: bytes ∧ given ≠ bytes := by
    subst same
    exact ⟨List.prefix_append given left, by simpa using more⟩
  unfold pending? at pending
  split at pending <;> cases pending <;> rename_i phase <;> rw [phase] at owed
  · cases owed with
    | answers row same =>
      obtain ⟨part, short⟩ := part same
      exact .ends row _ _ (.answered (.cut part short (failed rfl)))
  · cases owed with
    | joins row reached exchanged =>
      cases exchanged with
      | establishes unread same =>
        obtain ⟨part, short⟩ := part same
        exact .ends row _ _ (.tunnels reached (.cut part short (failed rfl)))
  · cases owed with
    | joins row reached exchanged =>
      cases exchanged with
      | requests unread nothing => exact .ends row _ _ (.relays reached (.failed unread nothing))
  · cases owed with
    | joins row reached exchanged =>
      cases exchanged with
      | replies one bound same =>
        obtain ⟨part, short⟩ := part same
        exact .ends row _ _ (.relays reached (.replied one bound (.cut part short (failed rfl))))

theorem begins (owed : Owed p first answers cut given reads s.phase)
    (phase : s.phase = .awaitingRequest) : first = none ∧ answers = [] ∧ given = [] ∧ reads = [] := by
  rw [phase] at owed
  cases owed with
  | waits unread unasked nothing fresh => exact ⟨unread, unasked, nothing, fresh⟩

theorem asks (owed : Owed p first answers cut given reads s.phase)
    (phase : s.phase = .dialing dest errand question) :
    Row.Applies p first (.judged (.dial dest errand)) ∧
      Dial.reached (Dial.start dest.host) answers = .waiting question ∧ given = [] ∧ reads = [] := by
  rw [phase] at owed
  cases owed with
  | dials row reached nothing fresh => exact ⟨row, reached, nothing, fresh⟩

theorem joined (owed : Owed p first answers cut given reads s.phase)
    (phase : s.phase = .joined upstream dest exchange) :
    ∃ errand greeting, Row.Applies p first (.judged (.dial dest errand)) ∧
      Dial.reached (Dial.start dest.host) answers = .opened greeting ∧
      Exchanged p given reads errand exchange := by
  rw [phase] at owed
  cases owed with
  | joins row reached exchanged => exact ⟨_, _, row, reached, exchanged⟩

theorem reads_first (events : List LogEvent) (c : Connection) (raw : Bytes) (more : Session × Journal)
    (owed : Owed p (some c) [] cut ([] ++ more.2.received .client) ([] ++ more.2.reads .upstream)
      more.1.phase) :
    let moved := after (.read .client raw :: events.map .log) more
    Owed p (some c) [] cut (moved.2.received .client) (moved.2.reads .upstream) moved.1.phase := by
  have unread : Journal.reads .upstream (.read .client raw :: events.map .log) = [] :=
    (Journal.Quiet.logs events).reads .upstream
  simp only [after, Journal.received_append, Journal.reads_append, Journal.received_first, unread,
    List.nil_append]
  exact owed

theorem step (owed : Owed p first answers cut given reads s.phase) (step : Step p s a moved)
    (weaker : ∀ e, cut e → later e)
    (fails : ∀ size c left e, a = .write size → s.pending? = some (.client, c, left) →
      left ≠ [] → c.write left size = some (.error e) → later e) :
    Owed p (first.or (if a = .read then some s.client else none)) (answers ++ a.answer?.toList) later
      (given ++ moved.2.received .client) (reads ++ moved.2.reads .upstream) moved.1.phase := by
  replace owed := owed.mono weaker
  cases step with
  | farClient =>
    rw [heard_received, Journal.heard_reads]
    simpa [Action.answer?] using owed
  | farUpstream held =>
    rw [heard_received, Journal.heard_reads]
    simpa [Action.answer?] using owed.setUpstream _
  | requestUnheld phase large =>
    obtain ⟨rfl, rfl, rfl, rfl⟩ := owed.begins phase
    exact .breaks (.unheld large) (.unheld rfl) s.client none
  | requestFails phase fits took =>
    obtain ⟨rfl, rfl, rfl, rfl⟩ := owed.begins phase
    have fault := Connection.read_fault took
    exact .finishes (.failed (Nat.le_of_not_lt fits) fault) (.failed rfl) _ none
  | requestEnds phase fits took =>
    obtain ⟨rfl, rfl, rfl, rfl⟩ := owed.begins phase
    rename_i c
    have row := Row.closed_of_read fits took
    exact reads_first [] s.client [] _ (.finishes row (.closed rfl) c none)
  | requestMalformed phase fits took full judged =>
    obtain ⟨rfl, rfl, rfl, rfl⟩ := owed.begins phase
    have row := Row.applies_of_read fits took full judged
    exact reads_first _ s.client _ _ (.finishes row (.malformed rfl) _ none)
  | requestAnswered phase fits took full judged =>
    obtain ⟨rfl, rfl, rfl, rfl⟩ := owed.begins phase
    rename_i c raw events response outcome
    have row := Row.applies_of_read fits took full judged
    let answering : Session := { client := c, phase := .answering (Response.bytes response) outcome }
    have owes : Owed p (some s.client) [] later ([] ++ []) ([] ++ []) answering.phase :=
      .answers row rfl
    have moved : Owed p (some s.client) [] later _ _ answering.phase :=
      reads_first events s.client raw (answering, []) owes
    simpa [after, Action.answer?] using moved
  | requestDials phase fits took full judged =>
    obtain ⟨rfl, rfl, rfl, rfl⟩ := owed.begins phase
    have row := Row.applies_of_read fits took full judged
    exact reads_first _ s.client _ _ (.dialTo row (Dial.reached_nil _) _)
  | resolved phase =>
    obtain ⟨row, reached, rfl, rfl⟩ := owed.asks phase
    rename_i dest errand answer
    have there : Dial.reached (Dial.start dest.host) (answers ++ [.ofName answer]) =
      Dial.lookedUp answer := Dial.reached_snoc reached
    simpa [Action.answer?] using Owed.dialTo row there s.client
  | dialed phase =>
    obtain ⟨row, reached, rfl, rfl⟩ := owed.asks phase
    rename_i dest errand ip others answer
    have there : Dial.reached (Dial.start dest.host) (answers ++ [.ofAddress answer]) =
      Dial.tried others answer := Dial.reached_snoc reached
    simpa [Action.answer?] using Owed.dialTo row there s.client
  | replyUnheld phase large =>
    rename_i upstream dest
    obtain ⟨errand, greeting, row, reached, exchanged⟩ := owed.joined phase
    obtain ⟨c, rfl⟩ := row.found
    cases exchanged with
    | awaits unread nothing =>
      simpa [Action.answer?] using
        Owed.breaks row (.relays reached (.unheld unread nothing large)) s.client (some upstream)
  | replyFails phase fits took =>
    obtain ⟨errand, greeting, row, reached, exchanged⟩ := owed.joined phase
    obtain ⟨c, rfl⟩ := row.found
    cases exchanged with
    | awaits unread nothing =>
      simpa [Action.answer?] using
        Owed.finishes row (.relays reached (.failed unread nothing)) s.client (some _)
  | replyTaken phase fits took =>
    obtain ⟨errand, greeting, row, reached, exchanged⟩ := owed.joined phase
    obtain ⟨c, rfl⟩ := row.found
    simpa [Action.answer?] using Owed.joins row reached (exchanged.takes took)
  | writeFails pending more wrote =>
    rename_i who c left size e
    have cut (client : who = .client) : later e := fails size c left e rfl (client ▸ pending) more wrote
    have quiet := finish_quiet s.client s.upstream? (.error (.io e))
    simpa [Action.answer?] using Owed.quiet quiet (owed.writeFails pending more cut)
  | writes pending more wrote =>
    simpa [Action.answer?] using owed.wrote pending (Connection.write_ok wrote)
  | answered phase =>
    rw [phase] at owed
    cases owed with
    | answers row same =>
      obtain ⟨c, rfl⟩ := row.found
      rw [List.append_nil] at same
      have quiet := shutQuietly_quiet .client s.client
      simpa [Action.answer?] using Owed.finishes_after quiet row (.answered (.done same)) _ none
  | established phase =>
    obtain ⟨errand, greeting, row, reached, exchanged⟩ := owed.joined phase
    simpa [Action.answer?] using Owed.joins row reached exchanged.opens
  | requestSent phase =>
    obtain ⟨errand, greeting, row, reached, exchanged⟩ := owed.joined phase
    simpa [Action.answer?] using Owed.joins row reached exchanged.asked
  | replySent phase =>
    rename_i upstream dest total size
    obtain ⟨errand, greeting, row, reached, exchanged⟩ := owed.joined phase
    cases exchanged with
    | replies one bound same =>
      rw [List.append_nil] at same
      simpa [Action.answer?] using
        Owed.relayed row (.relays reached (.replied one bound (.done same))) s.client upstream
  | tunnel phase moved =>
    obtain ⟨errand, greeting, row, reached, exchanged⟩ := owed.joined phase
    simpa [Action.answer?] using Owed.joins row reached (exchanged.copies moved)
  | conclude phase done =>
    rename_i upstream dest t summary
    obtain ⟨errand, greeting, row, reached, exchanged⟩ := owed.joined phase
    cases exchanged with
    | tunnels same flow =>
      have quiet : Journal.Quiet [.log (.tunnelClosed dest summary)] := .cons rfl .nil
      simpa [Action.answer?] using
        Owed.finishes_after quiet row (.tunnels reached (.ended same flow.part)) s.client
          (some upstream)

end Owed

variable {p : Policy} {origin s : Session} {j : Journal} {actions : List Action}

theorem Ran.atRead?_snoc (path : Ran p origin actions s j) (a : Action) :
    origin.atRead? p (actions ++ [a]) =
      (origin.atRead? p actions).or (if a = .read then some s.client else none) := by
  rw [atRead?, (runs p).views_snoc _ (run_exact.2 path), List.head?_append, Option.head?_toList]
  rfl

theorem WriteFailed.snoc (failed : WriteFailed p actions who e) (a : Action) :
    WriteFailed p (actions ++ [a]) who e := by
  obtain ⟨before, size, later, middle, opening, c, left, rfl, rest⟩ := failed
  exact ⟨before, size, later ++ [a], middle, opening, c, left, by simp, rest⟩

theorem Ran.owed (ran : Ran p {} actions s j) :
    Owed p (atRead? p {} actions) (answers actions) (WriteFailed p actions .client) (j.received .client)
      (j.reads .upstream) s.phase := by
  induction ran with
  | start => exact .waits rfl rfl rfl rfl
  | step path step ih =>
    rw [Ran.atRead?_snoc path, answers_snoc, Journal.received_append, Journal.reads_append]
    refine ih.step step (fun e failed => failed.snoc _) ?_
    rintro size c left e rfl pending more wrote
    exact ⟨_, size, [], _, _, c, left, rfl, run_exact.2 path, pending, more, wrote⟩

theorem Owed.row {first : Option Connection} {told : List Dial.Answer} {cut : SystemError → Prop}
    {given : Bytes} {reads : List Bytes} (owed : Owed p first told cut given reads s.phase) :
    ∃ row, Row.Applies p first row ∧ Row.Told p told cut given reads s.ending row := by
  unfold ending
  generalize s.phase = now at owed
  cases owed with
  | waits unread unasked nothing fresh =>
    subst unread
    exact ⟨.silent, .silent, .silent nothing⟩
  | answers row same => exact ⟨_, row, .answered (.going ⟨_, same⟩)⟩
  | dials row reached nothing fresh => exact ⟨_, row, .dials reached nothing⟩
  | joins row reached exchanged =>
    refine ⟨_, row, ?_⟩
    cases exchanged with
    | establishes unread same =>
      rename_i left
      have part : given <+: Response.bytes Response.established := ⟨left, same⟩
      exact .tunnels reached (.going (part.trans (List.prefix_append _ _)))
    | tunnels same flow =>
      refine .tunnels reached (.going ?_)
      rw [same]
      exact (List.prefix_append_right_inj _).2 flow.part
    | requests unread nothing => exact .relays reached (.going unread nothing)
    | awaits unread nothing => exact .relays reached (.going unread nothing)
    | replies one bound same =>
      exact .relays reached (.replied one bound (.going ⟨_, same⟩))
  | ended applies told => exact ⟨_, applies, told⟩

-- Every client is sent what its row of the table says, and no other row is its own.
theorem client_told (ran : Session.run p {} actions = some (s, j)) :
    ∃ row, Row.Applies p (atRead? p {} actions) row ∧
      (∀ other, Row.Applies p (atRead? p {} actions) other → other = row) ∧
      Row.Told p (answers actions) (WriteFailed p actions .client) (j.received .client) (j.reads .upstream)
        s.ending row ∧
      (s.ending = .returned (.ok .closed) ↔ row = .closed) ∧
      (s.ending = .returned (.error (.malformed .encoding)) ↔ row = .judged (.fail .encoding)) ∧
      (∀ why, s.ending = .returned (.ok (.rejected why)) →
        row = .judged (.answer (Response.challenge why) (.rejected why))) ∧
      (j.reads .upstream).flatten <+: j.sent .upstream := by
  have path := run_exact.1 ran
  obtain ⟨row, applies, told⟩ := (Ran.owed path).row
  refine ⟨row, applies, fun other again => applies.unique again, told,
    told.closed_exact applies, told.garbled_exact, ?_, ?_⟩
  · intro why rejected
    rw [rejected] at told
    exact told.rejected applies
  · rw [← Journal.taken_reads]
    exact ⟨s.unread .upstream, path.conserves .upstream⟩

-- There is no buffer for what this client sends, and it is not even asked for credentials.
theorem client_told_unheld :
    let p : Policy := {
      credentials := .ofList [⟨"u".toList, "a".toList⟩]
      limits := { request := Limits.largest + 1 } }
    let request := Text.utf8 "GET / HTTP/1.1\r\n\r\n".toList
    Settings.zeroBuffer? p.limits = none ∧
    (p.judge request).1 = .answer (Response.challenge .required) (.rejected .required) ∧
    ∃ s j, Session.run p {} [.far .client (.send request), .read] = some (s, j) ∧
      s.isOver = true ∧ s.result? = none ∧ j.received .client = [] := by
  intro p request
  refine ⟨by decide, by decide +kernel, ?_⟩
  have last : (Session.run p {} [.far .client (.send request), .read]).any (fun done =>
      done.1.isOver = true ∧ done.1.result? = none ∧ done.2.received .client = []) = true := by
    decide +kernel
  obtain ⟨⟨s, j⟩, ran, silent⟩ := (Option.any_eq_true _ _).1 last
  exact ⟨s, j, ran, of_decide_eq_true silent⟩

theorem client_told_cut :
    let p : Policy := { credentials := .ofList [⟨"u".toList, "a".toList⟩] }
    let request := Text.utf8 "GET / HTTP/1.1\r\n\r\n".toList
    let actions : List Action := [.far .client (.send request), .read, .write 10,
      .far .client .close, .write 1]
    ∃ s j, Session.run p {} actions = some (s, j) ∧
      s.ending = .returned (.error (.io .brokenPipe)) ∧ (j.received .client).length = 10 ∧
      Row.Told p (answers actions) (WriteFailed p actions .client) (j.received .client) (j.reads .upstream)
        s.ending (.judged (.answer (Response.challenge .required) (.rejected .required))) := by
  intro p request actions
  have last : (Session.run p {} actions).any (fun done =>
      done.1.ending = .returned (.error (.io .brokenPipe)) ∧
      (done.2.received .client).length = 10) = true := by decide +kernel
  obtain ⟨⟨s, j⟩, ran, severed⟩ := (Option.any_eq_true _ _).1 last
  obtain ⟨ended, ten⟩ := of_decide_eq_true severed
  obtain ⟨row, _, unique, told, _⟩ := client_told ran
  have found : atRead? p {} actions = some { unread := request } := by decide +kernel
  have full : request.take p.limits.request ≠ [] := by decide +kernel
  have judged : (p.judge (request.take p.limits.request)).1 =
      .answer (Response.challenge .required) (.rejected .required) := by decide +kernel
  have applies : Row.Applies p (atRead? p {} actions)
      (.judged (.answer (Response.challenge .required) (.rejected .required))) := by
    rw [found]
    exact .judged (by decide) (by decide) rfl (by decide +kernel) ((Policy.calls_exact full).2 judged)
  cases unique _ applies
  exact ⟨s, j, ran, ended, ten, told⟩

end Session

end GatedProxy
