import GatedProxy.Proofs.Connection
import GatedProxy.Proofs.Session.Verdict

namespace GatedProxy

inductive Ending where
  | goesOn
  | broken
  | returned (result : SessionResult)
  deriving DecidableEq

def Ending.ofResult : Option SessionResult → Ending
  | some result => .returned result
  | none => .broken

inductive Row where
  | silent
  | unheld
  | closed
  | failed (e : SystemError)
  | judged (judgement : Judgement)
  deriving DecidableEq, Repr

namespace Row

-- Which row it is, by the connection that the first read finds. There is none before that. With no
-- room to read into, every read that does not fail gives nothing.
inductive Applies (p : Policy) : Option Connection → Row → Prop where
  | silent : Applies p none .silent
  | unheld (large : Limits.largest < p.limits.request) : Applies p (some c) .unheld
  | closed (space : 0 < p.limits.request) (fits : p.limits.request ≤ Limits.largest)
      (sound : c.recvFault = none) (dry : c.Dry) : Applies p (some c) .closed
  | roomless (space : p.limits.request = 0) (sound : c.recvFault = none) :
      Applies p (some c) .closed
  | failed (fits : p.limits.request ≤ Limits.largest) (fault : c.recvFault = some e) :
      Applies p (some c) (.failed e)
  | judged (space : 0 < p.limits.request) (fits : p.limits.request ≤ Limits.largest)
      (sound : c.recvFault = none) (full : c.unread ≠ [])
      (calls : p.Calls (c.unread.take p.limits.request) judgement) :
      Applies p (some c) (.judged judgement)

variable {p : Policy} {first : Option Connection} {row other : Row}

theorem Applies.unique (one : Applies p first row) (two : Applies p first other) : other = row := by
  cases one with
  | silent => cases two; rfl
  | unheld large =>
    cases two with
    | unheld => rfl
    | closed _ fits => omega
    | roomless none => omega
    | failed fits => omega
    | judged _ fits => omega
  | closed space fits sound dry =>
    cases two with
    | unheld large => omega
    | closed => rfl
    | roomless => rfl
    | failed _ fault => rw [sound] at fault; cases fault
    | judged _ _ _ full => exact absurd dry.1 full
  | roomless none sound =>
    cases two with
    | unheld large => omega
    | closed => rfl
    | roomless => rfl
    | failed _ fault => rw [sound] at fault; cases fault
    | judged space => omega
  | failed fits fault =>
    cases two with
    | unheld large => omega
    | closed _ _ sound => rw [sound] at fault; cases fault
    | roomless _ sound => rw [sound] at fault; cases fault
    | failed _ again => cases fault.symm.trans again; rfl
    | judged _ _ sound => rw [sound] at fault; cases fault
  | @judged _ c space fits sound full calls =>
    cases two with
    | unheld large => omega
    | closed _ _ _ dry => exact absurd dry.1 full
    | roomless none => omega
    | failed _ fault => rw [sound] at fault; cases fault
    | judged _ _ _ _ again =>
      have some : c.unread.take p.limits.request ≠ [] := by simpa [full] using Nat.ne_of_gt space
      have same := (Policy.calls_exact some).1 calls
      rw [(Policy.calls_exact some).1 again] at same
      rw [same]

theorem applies_of_read {c later : Connection} (fits : ¬ Limits.largest < p.limits.request)
    (took : c.read p.limits.request = some (.ok raw, later)) (full : raw ≠ [])
    (judged : p.judge raw = (judgement, events)) : Applies p (some c) (.judged judgement) := by
  obtain ⟨rfl, _, _⟩ := Connection.read_ok took
  have parts : p.limits.request ≠ 0 ∧ c.unread ≠ [] := by simpa using full
  refine .judged (Nat.pos_of_ne_zero parts.1) (Nat.le_of_not_lt fits) (Connection.read_fault took)
    parts.2 ?_
  rw [Policy.calls_exact full, judged]

theorem closed_of_read {c later : Connection} (fits : ¬ Limits.largest < p.limits.request)
    (took : c.read p.limits.request = some (.ok [], later)) : Applies p (some c) .closed := by
  have sound := Connection.read_fault took
  rcases Nat.eq_zero_or_pos p.limits.request with none | space
  · exact .roomless none sound
  · obtain ⟨unread, finished⟩ := Connection.read_dry took space
    have empty : c.unread = [] := (Connection.read_unread took).symm.trans unread
    obtain ⟨_, rfl, _⟩ := Connection.read_ok took
    exact .closed space (Nat.le_of_not_lt fits) sound ⟨empty, finished⟩

theorem Applies.found (applies : Applies p first (.judged judgement)) : ∃ c, first = some c := by
  cases applies with
  | judged => exact ⟨_, rfl⟩

inductive Sends (cut : SystemError → Prop) (whole : Bytes) (outcome : Outcome) (given : Bytes) :
    Ending → Prop where
  | going (part : given <+: whole) : Sends cut whole outcome given .goesOn
  | done (all : given = whole) : Sends cut whole outcome given (.returned (.ok outcome))
  | cut (part : given <+: whole) (short : given ≠ whole) (failed : cut e) :
      Sends cut whole outcome given (.returned (.error (.io e)))

inductive Tunnels (cut : SystemError → Prop) (given taken : Bytes) : Ending → Prop where
  | going (part : given <+: Response.bytes Response.established ++ taken) :
      Tunnels cut given taken .goesOn
  | ended (same : given = Response.bytes Response.established ++ rest) (part : rest <+: taken) :
      Tunnels cut given taken (.returned (.ok (.tunneled summary)))
  | cut (part : given <+: Response.bytes Response.established)
      (short : given ≠ Response.bytes Response.established) (failed : cut e) :
      Tunnels cut given taken (.returned (.error (.io e)))

inductive Relays (p : Policy) (cut : SystemError → Prop) (given : Bytes) (reads : List Bytes) :
    Ending → Prop where
  | going (unread : reads = []) (nothing : given = []) : Relays p cut given reads .goesOn
  | unheld (unread : reads = []) (nothing : given = []) (large : Limits.largest < p.limits.reply) :
      Relays p cut given reads .broken
  | failed (unread : reads = []) (nothing : given = []) :
      Relays p cut given reads (.returned (.error (.io e)))
  | replied (one : reads = [reply]) (bound : reply.length ≤ p.limits.reply)
      (sends : Sends cut reply (.relayed reply.length) given ending) :
      Relays p cut given reads ending

-- What a client is given in each row, and how the session ends there.
inductive Told (p : Policy) (answers : List Dial.Answer) (cut : SystemError → Prop) (given : Bytes)
    (reads : List Bytes) : Ending → Row → Prop where
  | silent (nothing : given = []) : Told p answers cut given reads .goesOn .silent
  | unheld (nothing : given = []) : Told p answers cut given reads .broken .unheld
  | closed (nothing : given = []) :
      Told p answers cut given reads (.returned (.ok .closed)) .closed
  | failed (nothing : given = []) :
      Told p answers cut given reads (.returned (.error (.io e))) (.failed e)
  | malformed (nothing : given = []) :
      Told p answers cut given reads (.returned (.error (.malformed e))) (.judged (.fail e))
  | answered (sends : Sends cut (Response.bytes response) outcome given ending) :
      Told p answers cut given reads ending (.judged (.answer response outcome))
  | dials (reached : Dial.reached (Dial.start dest.host) answers = .waiting question)
      (nothing : given = []) :
      Told p answers cut given reads .goesOn (.judged (.dial dest errand))
  | undialed (reached : Dial.reached (Dial.start dest.host) answers = .failed e)
      (nothing : given = []) :
      Told p answers cut given reads (.returned (.error (.dial dest e))) (.judged (.dial dest errand))
  | tunnels (reached : Dial.reached (Dial.start dest.host) answers = .opened greeting)
      (tunnels : Tunnels cut given reads.flatten ending) :
      Told p answers cut given reads ending (.judged (.dial dest .tunnel))
  | relays (reached : Dial.reached (Dial.start dest.host) answers = .opened greeting)
      (relays : Relays p cut given reads ending) :
      Told p answers cut given reads ending (.judged (.dial dest (.relay request)))

variable {answers : List Dial.Answer} {cut later : SystemError → Prop} {given : Bytes}
  {reads : List Bytes} {ending : Ending}

theorem Sends.mono (weaker : ∀ e, cut e → later e) (sends : Sends cut whole outcome given ending) :
    Sends later whole outcome given ending := by
  cases sends with
  | going part => exact .going part
  | done all => exact .done all
  | cut part short failed => exact .cut part short (weaker _ failed)

theorem Sends.part (sends : Sends cut bytes outcome given ending) :
    given <+: bytes := by
  cases sends with
  | going part => exact part
  | done all => exact all ▸ List.prefix_rfl
  | cut part short failed => exact part

theorem Tunnels.mono (weaker : ∀ e, cut e → later e) (tunnels : Tunnels cut given taken ending) :
    Tunnels later given taken ending := by
  cases tunnels with
  | going part => exact .going part
  | ended same part => exact .ended same part
  | cut part short failed => exact .cut part short (weaker _ failed)

theorem Relays.mono (weaker : ∀ e, cut e → later e) (relays : Relays p cut given reads ending) :
    Relays p later given reads ending := by
  cases relays with
  | going unread nothing => exact .going unread nothing
  | unheld unread nothing large => exact .unheld unread nothing large
  | failed unread nothing => exact .failed unread nothing
  | replied one bound sends => exact .replied one bound (sends.mono weaker)

theorem Told.mono (weaker : ∀ e, cut e → later e) (told : Told p answers cut given reads ending row) :
    Told p answers later given reads ending row := by
  cases told with
  | silent nothing => exact .silent nothing
  | unheld nothing => exact .unheld nothing
  | closed nothing => exact .closed nothing
  | failed nothing => exact .failed nothing
  | malformed nothing => exact .malformed nothing
  | answered sends => exact .answered (sends.mono weaker)
  | dials reached nothing => exact .dials reached nothing
  | undialed reached nothing => exact .undialed reached nothing
  | tunnels reached tunnels => exact .tunnels reached (tunnels.mono weaker)
  | relays reached relays => exact .relays reached (relays.mono weaker)

theorem Told.closed_exact (told : Told p answers cut given reads ending row)
    (applies : Applies p first row) : ending = .returned (.ok .closed) ↔ row = .closed := by
  constructor
  · rintro rfl
    cases told with
    | closed => rfl
    | answered sends =>
      cases sends with
      | done all =>
        cases applies with
        | judged _ _ _ _ calls => cases calls
    | tunnels reached tunnels => cases tunnels
    | relays reached relays =>
      cases relays with
      | replied one bound sends => cases sends
  · rintro rfl
    cases told
    rfl

theorem Told.garbled_exact (told : Told p answers cut given reads ending row) :
    ending = .returned (.error (.malformed .encoding)) ↔ row = .judged (.fail .encoding) := by
  constructor
  · rintro rfl
    cases told with
    | malformed => rfl
    | answered sends => cases sends
    | tunnels reached tunnels => cases tunnels
    | relays reached relays =>
      cases relays with
      | replied one bound sends => cases sends
  · rintro rfl
    cases told
    rfl

theorem Told.rejected (told : Told p answers cut given reads (.returned (.ok (.rejected why))) row)
    (applies : Applies p first row) :
    row = .judged (.answer (Response.challenge why) (.rejected why)) := by
  cases told with
  | answered sends =>
    cases sends with
    | done all =>
      cases applies with
      | judged _ _ _ _ calls => cases calls <;> rfl
  | tunnels reached tunnels => cases tunnels
  | relays reached relays =>
    cases relays with
    | replied one bound sends => cases sends

end Row

end GatedProxy
