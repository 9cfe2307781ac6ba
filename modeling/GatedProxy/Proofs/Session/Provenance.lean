import GatedProxy.Proofs.Session.Answer

namespace GatedProxy

def Response.own : List String :=
  [established, badRequest, challenge .required, challenge .invalidCredentials]

theorem Policy.Calls.own {p : Policy} (calls : p.Calls raw (.answer response outcome)) :
    response ∈ Response.own := by
  cases calls <;> simp [Response.own]

-- What a client is given: a part of what the proxy says for itself, and after it a part of what was
-- read of the upstream.
def Served (given taken : Bytes) : Prop :=
  ∃ told rest, given = told ++ rest ∧
    (∃ response ∈ Response.own, told <+: Response.bytes response) ∧ rest <+: taken

namespace Served

variable {given taken more : Bytes}

theorem own (member : response ∈ Response.own) (part : given <+: Response.bytes response) :
    Served given taken :=
  ⟨given, [], (List.append_nil given).symm, ⟨response, member, part⟩, List.nil_prefix⟩

theorem read (part : given <+: taken) : Served given taken :=
  ⟨[], given, rfl, ⟨_, List.mem_cons_self .., List.nil_prefix⟩, part⟩

theorem nothing (none : given = []) : Served given taken := read (none ▸ List.nil_prefix)

theorem established (part : given <+: Response.bytes Response.established ++ taken) :
    Served given taken := by
  have member : Response.established ∈ Response.own := List.mem_cons_self ..
  rcases List.prefix_or_prefix_of_prefix part (List.prefix_append _ taken) with short | ⟨rest, rfl⟩
  · exact own member short
  · exact ⟨_, rest, rfl, ⟨_, member, List.prefix_rfl⟩, (List.prefix_append_right_inj _).1 part⟩

theorem trans (served : Served given taken) (part : taken <+: more) : Served given more := by
  obtain ⟨told, rest, same, own, within⟩ := served
  exact ⟨told, rest, same, own, within.trans part⟩

end Served

theorem Row.Told.served {p : Policy} {reads : List Bytes}
    (told : Told p answers cut given reads ending row) (applies : Applies p first row) :
    Served given reads.flatten := by
  cases told with
  | answered sends =>
    cases applies with
    | judged _ _ _ _ calls => exact .own calls.own sends.part
  | tunnels reached tunnels =>
    cases tunnels with
    | going part => exact .established part
    | ended same part =>
      exact .established (same ▸ (List.prefix_append_right_inj _).2 part)
    | cut part short failed => exact .own (List.mem_cons_self ..) part
  | relays reached relays =>
    cases relays with
    | going unread none => exact .nothing none
    | unheld unread none large => exact .nothing none
    | failed unread none => exact .nothing none
    | replied one bound sends =>
      subst one
      exact .read (by simpa using sends.part)
  | silent none => exact .nothing none
  | unheld none => exact .nothing none
  | closed none => exact .nothing none
  | failed none => exact .nothing none
  | malformed none => exact .nothing none
  | dials reached none => exact .nothing none
  | undialed reached none => exact .nothing none

namespace Session

-- How what an upstream gets comes from what the client of its session sends.
inductive Forwards (client forwarded : Bytes) : Phase → Prop where
  | waits (unread : client = []) (nothing : forwarded = []) :
      Forwards client forwarded .awaitingRequest
  | answers (nothing : forwarded = []) : Forwards client forwarded (.answering left outcome)
  | dials (nothing : forwarded = []) (whole : ∀ request, errand = .relay request → request = client) :
      Forwards client forwarded (.dialing dest errand question)
  | establishes (nothing : forwarded = []) :
      Forwards client forwarded (.joined upstream dest (.establishing left))
  | tunnels (same : client = raw ++ rest) (flow : (t.loop .up).Flow forwarded rest) :
      Forwards client forwarded (.joined upstream dest (.tunneling t))
  | requests (same : forwarded ++ left = client) :
      Forwards client forwarded (.joined upstream dest (.sendingRequest left))
  | awaits (same : forwarded = client) :
      Forwards client forwarded (.joined upstream dest .awaitingReply)
  | replies (same : forwarded = client) :
      Forwards client forwarded (.joined upstream dest (.sendingReply size left))
  | ended (part : forwarded <:+: client) : Forwards client forwarded (.over upstream result)

namespace Forwards

variable {p : Policy} {client forwarded : Bytes} {s : Session}

theorem part (forwards : Forwards client forwarded now) : forwarded <:+: client := by
  cases forwards with
  | waits unread nothing => exact nothing ▸ List.nil_infix
  | answers nothing => exact nothing ▸ List.nil_infix
  | dials nothing whole => exact nothing ▸ List.nil_infix
  | establishes nothing => exact nothing ▸ List.nil_infix
  | tunnels same flow => exact same ▸ flow.part.isInfix.trans (List.suffix_append _ _).isInfix
  | requests same => exact same ▸ (List.prefix_append _ _).isInfix
  | awaits same => exact same ▸ List.infix_rfl
  | replies same => exact same ▸ List.infix_rfl
  | ended part => exact part

theorem quiet {more : Journal} (forwards : Forwards client forwarded now) (quiet : more.Quiet) :
    Forwards (client ++ more.taken .client) (forwarded ++ more.received .upstream) now := by
  rw [quiet.taken, quiet.received, List.append_nil, List.append_nil]
  exact forwards

theorem ends (part : forwarded <:+: client) (c : Connection) (upstream : Option Connection)
    (result : Option SessionResult) :
    Forwards client forwarded (endWith c upstream result).1.phase := by
  cases upstream <;> exact .ended part

theorem finishes (part : forwarded <:+: client) (c : Connection) (upstream : Option Connection)
    (result : Option SessionResult) :
    let moved := endWith c upstream result
    Forwards (client ++ moved.2.taken .client) (forwarded ++ moved.2.received .upstream)
      moved.1.phase :=
  quiet (.ends part c upstream result) (endWith_parting c upstream result).quiet

theorem setUpstream (forwards : Forwards client forwarded s.phase) (c : Connection) :
    Forwards client forwarded (s.setUpstream c).phase := by
  unfold Session.setUpstream
  split
  · rename_i phase
    rw [phase] at forwards
    cases forwards with
    | establishes nothing => exact .establishes nothing
    | tunnels same flow => exact .tunnels same flow
    | requests same => exact .requests same
    | awaits same => exact .awaits same
    | replies same => exact .replies same
  · rename_i phase
    rw [phase] at forwards
    exact .ended forwards.part
  all_goals exact forwards

theorem dialTo (whole : ∀ request, errand = .relay request → request = client) (c : Connection)
    (dest : Authority) (progress : Dial.Progress) :
    let moved := Session.dialTo c dest errand progress
    Forwards (client ++ moved.2.taken .client) (moved.2.received .upstream) moved.1.phase := by
  have nothing : (Session.dialTo c dest errand progress).2.taken .client = [] ∧
      (Session.dialTo c dest errand progress).2.received .upstream = [] := by
    cases progress with
    | waiting question => cases question <;> exact ⟨rfl, rfl⟩
    | failed e =>
      have quiet := finish_quiet c none (.error (.dial dest e))
      exact ⟨quiet.taken .client, quiet.received .upstream⟩
    | opened bytes => cases errand <;> exact ⟨rfl, rfl⟩
  dsimp only
  rw [nothing.1, nothing.2, List.append_nil]
  cases progress with
  | waiting question => exact .dials rfl whole
  | failed e => exact .ends List.nil_infix c none _
  | opened bytes =>
    cases errand with
    | tunnel => exact .establishes rfl
    | relay request => exact .requests (whole request rfl)

theorem wrote (forwards : Forwards client forwarded s.phase)
    (pending : s.pending? = some (who, c, left)) (split : accepted ++ rest = left) :
    Forwards client (forwarded ++ Journal.received .upstream [.wrote who accepted])
      (s.setPending rest).phase := by
  have toClient : Journal.received .upstream [.wrote .client accepted] = [] := rfl
  unfold pending? at pending
  split at pending <;> cases pending <;> rename_i phase <;> rw [phase] at forwards <;>
    simp only [setPending, phase, toClient, List.append_nil]
  · cases forwards with
    | answers nothing => exact .answers nothing
  · cases forwards with
    | establishes nothing => exact .establishes nothing
  · cases forwards with
    | requests same =>
      refine .requests ?_
      rw [Journal.received_wrote, List.append_assoc, split, same]
  · cases forwards with
    | replies same => exact .replies same

theorem begins (forwards : Forwards client forwarded s.phase) (phase : s.phase = .awaitingRequest) :
    client = [] ∧ forwarded = [] := by
  rw [phase] at forwards
  cases forwards with
  | waits unread nothing => exact ⟨unread, nothing⟩

theorem asks (forwards : Forwards client forwarded s.phase)
    (phase : s.phase = .dialing dest errand question) :
    forwarded = [] ∧ ∀ request, errand = .relay request → request = client := by
  rw [phase] at forwards
  cases forwards with
  | dials nothing whole => exact ⟨nothing, whole⟩

theorem reads_first (events : List LogEvent) (raw : Bytes) (more : Session × Journal)
    (forwards : Forwards (raw ++ more.2.taken .client) ([] ++ more.2.received .upstream)
      more.1.phase) :
    let moved := after (.read .client raw :: events.map .log) more
    Forwards (moved.2.taken .client) (moved.2.received .upstream) moved.1.phase := by
  simp only [after, Journal.taken_append, Journal.received_append, Journal.taken_first,
    Journal.received_first]
  exact forwards

theorem step (forwards : Forwards client forwarded s.phase) (step : Step p s a moved) :
    Forwards (client ++ moved.2.taken .client) (forwarded ++ moved.2.received .upstream)
      moved.1.phase := by
  cases step with
  | farClient =>
    rw [heard_taken, heard_received, List.append_nil, List.append_nil]
    exact forwards
  | farUpstream held =>
    rw [heard_taken, heard_received, List.append_nil, List.append_nil]
    exact forwards.setUpstream _
  | requestUnheld phase large => exact .finishes forwards.part _ _ _
  | requestFails phase fits took => exact .finishes forwards.part _ _ _
  | requestEnds phase fits took =>
    obtain ⟨rfl, rfl⟩ := forwards.begins phase
    exact reads_first [] [] _ (.finishes List.nil_infix _ _ _)
  | requestMalformed phase fits took full judged =>
    obtain ⟨rfl, rfl⟩ := forwards.begins phase
    exact reads_first _ _ _ (.finishes List.nil_infix _ _ _)
  | requestAnswered phase fits took full judged =>
    obtain ⟨rfl, rfl⟩ := forwards.begins phase
    rename_i c raw events response outcome
    let answering : Session := { client := c, phase := .answering (Response.bytes response) outcome }
    have answers := reads_first events raw (answering, []) (.answers rfl)
    simpa [after] using answers
  | requestDials phase fits took full judged =>
    obtain ⟨rfl, rfl⟩ := forwards.begins phase
    rename_i c raw events dest errand
    have whole (request : Bytes) (relay : errand = .relay request) : request = raw := by
      have called := (Policy.calls_exact full).2 (congrArg Prod.fst judged)
      rw [relay] at called
      cases called
      rfl
    exact reads_first events raw _ (.dialTo whole c dest _)
  | resolved phase =>
    obtain ⟨rfl, whole⟩ := forwards.asks phase
    exact .dialTo whole _ _ _
  | dialed phase =>
    obtain ⟨rfl, whole⟩ := forwards.asks phase
    exact .dialTo whole _ _ _
  | replyUnheld phase large => exact .finishes forwards.part _ _ _
  | replyFails phase fits took => exact .finishes forwards.part _ _ _
  | replyTaken phase fits took =>
    rw [phase] at forwards
    cases forwards with
    | awaits same =>
      have unread {data : Bytes} : Journal.taken .client [.read .upstream data] = [] := rfl
      rw [unread, Journal.received_read, List.append_nil, List.append_nil]
      exact .replies same
  | writeFails pending more wrote => exact .finishes forwards.part _ _ _
  | writes pending more wrote =>
    have unread {who : End} {data : Bytes} : Journal.taken .client [.wrote who data] = [] := rfl
    rw [unread, List.append_nil]
    exact forwards.wrote pending (Connection.write_ok wrote)
  | answered phase =>
    have shut := shutQuietly_quiet .client s.client
    exact Forwards.quiet (.ends forwards.part _ _ _) (shut.append (finish_quiet _ _ _))
  | established phase =>
    rw [phase] at forwards
    cases forwards with
    | establishes nothing =>
      exact Forwards.quiet (.tunnels (List.append_nil client).symm nothing) (.cons rfl .nil)
  | requestSent phase =>
    rw [phase] at forwards
    cases forwards with
    | requests same =>
      rw [List.append_nil] at same
      exact Forwards.quiet (.awaits same) .nil
  | replySent phase =>
    exact Forwards.quiet (.ends forwards.part _ _ _) (relayed_quiet _ _ _ _)
  | tunnel phase moved =>
    rename_i upstream dest t action t' ends journal
    rw [phase] at forwards
    cases forwards with
    | tunnels same flow =>
      rename_i raw rest
      have onward : (t'.loop .up).Flow (forwarded ++ journal.received .upstream)
          (rest ++ journal.taken .client) := (Tunnel.act_sound moved).flow .up flow
      exact .tunnels (by rw [same, List.append_assoc]) onward
  | conclude phase done =>
    exact Forwards.quiet (.ends forwards.part _ _ _) (.cons (o := .log _) rfl (finish_quiet _ _ _))

end Forwards

variable {p : Policy} {s : Session} {j : Journal} {actions : List Action}

theorem Ran.forwards (ran : Ran p {} actions s j) :
    Forwards (j.taken .client) (j.received .upstream) s.phase := by
  induction ran with
  | start => exact .waits rfl rfl
  | step path step ih =>
    rw [Journal.taken_append, Journal.received_append]
    exact ih.step step

-- Every byte that an end gets was sent by the other end of its own session, or is the proxy's own.
theorem Ran.provenance (ran : Ran p {} actions s j) :
    j.received .upstream <:+: j.sent .client ∧ Served (j.received .client) (j.sent .upstream) := by
  constructor
  · have part : j.taken .client <+: j.sent .client := ⟨_, ran.conserves .client⟩
    exact (Ran.forwards ran).part.trans part.isInfix
  · obtain ⟨row, applies, told⟩ := (Ran.owed ran).row
    have served := told.served applies
    rw [← Journal.taken_reads] at served
    exact served.trans ⟨_, ran.conserves .upstream⟩

end Session

end GatedProxy
