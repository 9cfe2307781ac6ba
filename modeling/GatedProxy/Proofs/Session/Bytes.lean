import GatedProxy.Proofs.Session.Step
import GatedProxy.Proofs.Tunnel.Flow

namespace GatedProxy

namespace Session

def waiting (client : Connection) (upstream : Option Connection) : End → Bytes
  | .client => client.unread
  | .upstream => (upstream.map Connection.unread).getD []

def unread (s : Session) (who : End) : Bytes := waiting s.client s.upstream? who

theorem heard_sent (who : End) (c : Connection) (event : FarEvent) :
    (c.far event).unread = c.unread ++ (heard who c event).sent who := by
  cases event with
  | send data =>
    dsimp only [Connection.far, heard]
    split <;> simp [Journal.sent]
  | fault call e => cases call <;> exact (List.append_nil _).symm
  | _ => exact (List.append_nil _).symm

theorem heard_sent_other {who other : End} (differ : who ≠ other) (c : Connection)
    (event : FarEvent) : (heard who c event).sent other = [] := by
  rcases heard_cases who c event with none | ⟨data, one⟩
  · rw [none]
    rfl
  · simp [one, Journal.sent, differ]

theorem heard_taken (who : End) (c : Connection) (event : FarEvent) (other : End) :
    (heard who c event).taken other = [] := by
  rcases heard_cases who c event with none | ⟨data, one⟩
  · rw [none]
    rfl
  · rw [one]
    rfl

theorem heard_received (who : End) (c : Connection) (event : FarEvent) (other : End) :
    (heard who c event).received other = [] := by
  rcases heard_cases who c event with none | ⟨data, one⟩
  · rw [none]
    rfl
  · rw [one]
    rfl

theorem heard_firstRead? (who : End) (c : Connection) (event : FarEvent) :
    (heard who c event).firstRead? = none := by
  rcases heard_cases who c event with none | ⟨data, one⟩
  · rw [none]
    rfl
  · rw [one]
    rfl

theorem heard_dialings (who : End) (c : Connection) (event : FarEvent) :
    (heard who c event).dialings = [] := by
  rcases heard_cases who c event with none | ⟨data, one⟩
  · rw [none]
    rfl
  · rw [one]
    rfl

theorem unread_setPending (s : Session) (left : Bytes) (who : End) :
    (s.setPending left).unread who = s.unread who := by
  rw [unread, client_setPending, upstream?_setPending]
  rfl

-- A move that starts with these connections loses no byte that it has not read, and makes up none.
def Conserves (client : Connection) (upstream : Option Connection) (moved : Session × Journal) :
    Prop :=
  ∀ who, moved.2.taken who ++ moved.1.unread who = waiting client upstream who ++ moved.2.sent who

namespace Conserves

variable {client later : Connection} {upstream : Option Connection} {moved : Session × Journal}

theorem quiet (quiet : moved.2.Quiet) (same : ∀ who, moved.1.unread who = waiting client upstream who) :
    Conserves client upstream moved := by
  intro who
  rw [quiet.taken, quiet.sent, same, List.nil_append, List.append_nil]

theorem after {first : Journal} (first_quiet : first.Quiet) (now : Conserves client upstream moved) :
    Conserves client upstream (after first moved) := by
  intro who
  have here := now who
  simpa [Session.after, first_quiet.taken, first_quiet.sent] using here

theorem read (took : client.read room = some (.ok data, later))
    (now : Conserves later upstream moved) :
    Conserves client upstream (Session.after [.read .client data] moved) := by
  intro who
  have here := now who
  cases who with
  | client =>
    have front := Connection.read_unread took
    dsimp only [Session.after, waiting] at here ⊢
    rw [Journal.taken_append, Journal.taken_read, List.append_assoc, here, ← front,
      List.append_assoc]
    rfl
  | upstream => exact here

theorem endWith (client : Connection) (upstream : Option Connection)
    (result : Option SessionResult) : Conserves client upstream (endWith client upstream result) := by
  apply Conserves.quiet (endWith_parting client upstream result).quiet
  intro who
  cases upstream <;> cases who <;> rfl

theorem dialTo (client : Connection) (dest : Authority) (errand : Errand)
    (progress : Dial.Progress) : Conserves client none (dialTo client dest errand progress) := by
  cases progress with
  | waiting question =>
    intro who
    cases question <;> cases who <;> exact (List.append_nil _).symm
  | failed e => exact endWith client none _
  | opened bytes =>
    intro who
    cases who with
    | client => exact (List.append_nil _).symm
    | upstream => exact (List.append_nil bytes).symm

end Conserves

theorem shutQuietly_unread (who : End) (c : Connection) :
    (shutQuietly who c).1.unread = c.unread := by
  unfold shutQuietly
  split
  · rename_i shut
    exact (Connection.shutdown_ok shut).1
  · rfl

theorem relayed_conserves (client upstream : Connection) (dest : Authority) (size : Nat) :
    Conserves client (some upstream) (relayed client upstream dest size) := by
  apply Conserves.quiet (relayed_quiet client upstream dest size)
  intro who
  cases who with
  | client => exact shutQuietly_unread .client client
  | upstream => exact shutQuietly_unread .upstream upstream

theorem farClient_conserves (s : Session) (event : FarEvent) :
    Conserves s.client s.upstream?
      ({ s with client := s.client.far event }, heard .client s.client event) := by
  intro who
  rw [heard_taken]
  cases who with
  | client => exact heard_sent .client s.client event
  | upstream =>
    have none : (heard .client s.client event).sent .upstream = [] := heard_sent_other (by decide) _ _
    rw [none]
    exact (List.append_nil _).symm

theorem farUpstream_conserves {s : Session} (held : s.upstream? = some c) (event : FarEvent) :
    Conserves s.client s.upstream? (s.setUpstream (c.far event), heard .upstream c event) := by
  intro who
  rw [heard_taken]
  cases who with
  | client =>
    have none : (heard .upstream c event).sent .client = [] := heard_sent_other (by decide) _ _
    rw [none, unread, client_setUpstream]
    exact (List.append_nil _).symm
  | upstream =>
    rw [unread, upstream?_setUpstream held, held]
    exact heard_sent .upstream c event

theorem Step.conserves {p : Policy} {s : Session} (step : Step p s a moved) :
    Conserves s.client s.upstream? moved := by
  cases step with
  | farClient => exact farClient_conserves s _
  | farUpstream held => exact farUpstream_conserves held _
  | requestUnheld phase =>
    simp only [upstream?, phase]
    exact .endWith s.client none none
  | requestFails phase fits took =>
    simp only [upstream?, phase, ← Connection.read_error took]
    exact .endWith _ none _
  | requestEnds phase fits took =>
    simp only [upstream?, phase]
    exact .read took (.endWith _ none _)
  | requestMalformed phase fits took full judged =>
    simp only [upstream?, phase]
    exact .read took (.after (.logs _) (.endWith _ none _))
  | requestAnswered phase fits took full judged =>
    rename_i c raw events response outcome
    simp only [upstream?, phase]
    have logs := Journal.Quiet.logs events
    let now : Session := { client := c, phase := .answering (Response.bytes response) outcome }
    have still : Conserves c none (now, events.map .log) :=
      .quiet logs fun who => by cases who <;> rfl
    exact .read took still
  | requestDials phase fits took full judged =>
    simp only [upstream?, phase]
    exact .read took (.after (.logs _) (.dialTo _ _ _ _))
  | resolved phase =>
    simp only [upstream?, phase]
    exact .dialTo _ _ _ _
  | dialed phase =>
    simp only [upstream?, phase]
    exact .dialTo _ _ _ _
  | replyUnheld phase =>
    simp only [upstream?, phase]
    exact .endWith _ _ none
  | replyFails phase fits took =>
    simp only [upstream?, phase, ← Connection.read_error took]
    exact .endWith _ _ _
  | replyTaken phase fits took =>
    simp only [upstream?, phase]
    intro who
    cases who with
    | client => exact (List.append_nil _).symm
    | upstream =>
      have front := Connection.read_unread took
      simpa [waiting, unread, upstream?, Journal.sent] using front
  | writeFails => exact .endWith _ _ _
  | writes pending =>
    intro who
    rw [unread_setPending]
    exact (List.append_nil _).symm
  | answered phase =>
    simp only [upstream?, phase]
    refine .after (shutQuietly_quiet _ _) (.quiet (finish_quiet _ _ _) fun who => ?_)
    cases who with
    | client => exact shutQuietly_unread .client s.client
    | upstream => rfl
  | established phase =>
    simp only [upstream?, phase]
    exact .quiet (.cons rfl .nil) fun who => by cases who <;> rfl
  | requestSent phase =>
    simp only [upstream?, phase]
    exact .quiet .nil fun who => by cases who <;> rfl
  | replySent phase =>
    simp only [upstream?, phase]
    exact relayed_conserves _ _ _ _
  | tunnel phase moved =>
    rename_i upstream dest t t' ends journal a
    have step := Tunnel.act_sound moved
    simp only [upstream?, phase]
    intro who
    rw [step.sent, List.append_nil]
    have here := step.conserves who
    cases who <;> exact here
  | conclude phase =>
    simp only [upstream?, phase]
    exact .after (.cons rfl .nil) (.endWith _ _ _)

theorem Ran.conserves {p : Policy} {s : Session} {j : Journal} (ran : Ran p {} actions s j)
    (who : End) : j.taken who ++ s.unread who = j.sent who := by
  induction ran with
  | start => cases who <;> rfl
  | step path step ih =>
    have here : _ = _ ++ _ := step.conserves who
    rw [Journal.taken_append, Journal.sent_append, List.append_assoc, here, ← ih,
      List.append_assoc]
    rfl

end Session

theorem Tunnel.Step.dropped {t : Tunnel} {ends : Ends}
    (step : Tunnel.Step room t ends a (t', ends', journal)) (who : End) :
    (ends'.get who).dropped = (ends.get who).dropped := by
  have kept {side : End} {c : Connection} (same : c.dropped = (ends.get side).dropped) :
      ((ends.set side c).get who).dropped = (ends.get who).dropped := by
    by_cases here : side = who
    · subst here
      rw [get_set, same]
    · rw [get_set_other ends c here]
  cases step with
  | readEnds loop fits took => exact kept (Connection.read_dropped took)
  | reads loop fits took full => exact kept (Connection.read_dropped took)
  | shuts loop shut => exact kept (Connection.shutdown_ok shut).2.2
  | _ => rfl

namespace Session

-- A session lets go of its connections when it is over, and not before.
structure Holds (s : Session) : Prop where
  client : s.client.dropped = s.isOver
  upstream : ∀ c, s.upstream? = some c → c.dropped = s.isOver

theorem endWith_holds (client : Connection) (upstream : Option Connection)
    (result : Option SessionResult) : Holds (endWith client upstream result).1 := by
  cases upstream with
  | none => exact ⟨rfl, nofun⟩
  | some upstream =>
    refine ⟨rfl, ?_⟩
    rintro _ ⟨⟩
    rfl

theorem dialTo_holds {client : Connection} (held : client.dropped = false) (dest : Authority)
    (errand : Errand) (progress : Dial.Progress) : Holds (dialTo client dest errand progress).1 := by
  cases progress with
  | waiting question => exact ⟨held, nofun⟩
  | failed e => exact endWith_holds client none _
  | opened bytes =>
    refine ⟨held, ?_⟩
    rintro _ ⟨⟩
    rfl

theorem Holds.joined {s : Session} {upstream c later : Connection} (holds : Holds s)
    (phase : s.phase = .joined upstream dest exchange) (client : c.dropped = s.client.dropped)
    (same : later.dropped = upstream.dropped) :
    Holds { client := c, phase := .joined later dest next } := by
  have goesOn : s.isOver = false := by simp [isOver, phase]
  have held : s.upstream? = some upstream := by simp [upstream?, phase]
  refine ⟨?_, ?_⟩
  · rw [client, holds.client, goesOn]
    rfl
  · rintro _ ⟨⟩
    rw [same, holds.upstream upstream held, goesOn]
    rfl

theorem Step.holds {p : Policy} {s : Session} (step : Step p s a moved) (holds : Holds s) :
    Holds moved.1 := by
  have unread (phase : s.phase = .awaitingRequest) : s.client.dropped = false := by
    rw [holds.client, isOver, phase]
  cases step with
  | farClient =>
    rename_i event
    exact ⟨(Connection.far_dropped s.client event).trans holds.client, holds.upstream⟩
  | farUpstream held =>
    rename_i c event
    refine ⟨?_, ?_⟩
    · rw [client_setUpstream, isOver_setUpstream, holds.client]
    · intro later now
      rw [upstream?_setUpstream held] at now
      cases now
      rw [isOver_setUpstream, Connection.far_dropped, holds.upstream c held]
  | requestAnswered phase fits took =>
    exact ⟨(Connection.read_dropped took).trans (unread phase), by simp [upstream?]⟩
  | requestDials phase fits took =>
    exact dialTo_holds ((Connection.read_dropped took).trans (unread phase)) _ _ _
  | resolved phase => exact dialTo_holds (by rw [holds.client, isOver, phase]) _ _ _
  | dialed phase => exact dialTo_holds (by rw [holds.client, isOver, phase]) _ _ _
  | replyTaken phase fits took => exact holds.joined phase rfl (Connection.read_dropped took)
  | writes pending =>
    obtain ⟨client, upstream⟩ := holds
    rename_i accepted rest size
    refine ⟨?_, ?_⟩
    · rw [client_setPending, isOver_setPending, client]
    · rw [upstream?_setPending, isOver_setPending]
      exact upstream
  | established phase => exact holds.joined phase rfl rfl
  | requestSent phase => exact holds.joined phase rfl rfl
  | tunnel phase moved =>
    have kept := (Tunnel.act_sound moved).dropped
    exact holds.joined phase (kept .client) (kept .upstream)
  | _ => exact endWith_holds _ _ _

theorem Ran.holds {p : Policy} {s : Session} (ran : Ran p {} actions s j) : Holds s := by
  induction ran with
  | start => exact ⟨rfl, nofun⟩
  | step path step ih => exact step.holds ih

theorem Step.ended {p : Policy} {s : Session} (step : Step p s a moved) (holds : Holds s)
    (ended : s.isOver = true) :
    moved.2 = [] ∧ moved.1.isOver = true ∧ moved.1.result? = s.result? := by
  obtain ⟨client, upstream⟩ := holds
  rw [ended] at client upstream
  unfold isOver at ended
  split at ended
  · rename_i held result phase
    cases step with
    | farClient => exact ⟨heard_dropped client _ _, by simp [isOver, phase], rfl⟩
    | farUpstream now =>
      refine ⟨heard_dropped (upstream _ now) _ _, ?_⟩
      simp only [upstream?, phase] at now
      subst now
      simp [setUpstream, phase, isOver, result?]
    | writeFails pending => simp [pending?, phase] at pending
    | writes pending => simp [pending?, phase] at pending
    | _ => simp_all
  · cases ended

theorem Ran.ended {p : Policy} {s : Session} (ran : Ran p s actions t j) (holds : Holds s)
    (ended : s.isOver = true) : j = [] ∧ t.isOver = true ∧ t.result? = s.result? := by
  suffices Holds t ∧ j = [] ∧ t.isOver = true ∧ t.result? = s.result? from this.2
  induction ran with
  | start => exact ⟨holds, rfl, ended, rfl⟩
  | step path step ih =>
    obtain ⟨held, none, still, same⟩ := ih
    obtain ⟨nothing, after, result⟩ := step.ended held still
    exact ⟨step.holds held, by rw [none, nothing]; rfl, after, result.trans same⟩

theorem ended_at {p : Policy} {s : Session}
    (ran : Session.run p {} (before ++ a :: later) = some (s, j))
    (path : Session.run p {} before = some (middle, opening)) (step : Step p middle a moved)
    (ended : moved.1.isOver = true) : s.result? = moved.1.result? ∧ j = opening ++ moved.2 := by
  obtain ⟨t, early, late, one, two, rfl⟩ := (runs p).split ran
  rw [path] at one
  cases one
  rw [(runs p).cons, act_complete step] at two
  obtain ⟨here, same, two⟩ := Option.bind_eq_some_iff.1 two
  cases same
  obtain ⟨last, went, equal⟩ := Option.bind_eq_some_iff.1 two
  cases equal
  have holds := step.holds (Ran.holds (run_exact.1 path))
  obtain ⟨none, _, same⟩ := Ran.ended (run_exact.1 went) holds ended
  exact ⟨same, by rw [none, List.append_nil]⟩

end Session

end GatedProxy
