import GatedProxy.Proofs.Run
import GatedProxy.Session.Basic

namespace GatedProxy.Session

def heard (who : End) (c : Connection) : FarEvent → Journal
  | .send data => if c.listens then [.arrived who data] else []
  | .finish | .close | .fault _ _ => []

theorem heard_cases (who : End) (c : Connection) (event : FarEvent) :
    heard who c event = [] ∨ ∃ data, heard who c event = [.arrived who data] := by
  cases event with
  | send data =>
    dsimp only [heard]
    split
    · exact .inr ⟨data, rfl⟩
    · exact .inl rfl
  | _ => exact .inl rfl

theorem heard_dropped {c : Connection} (dropped : c.dropped = true) (who : End) (event : FarEvent) :
    heard who c event = [] := by
  cases event with
  | send data => simp [heard, Connection.listens, dropped]
  | _ => rfl

theorem client_setUpstream (s : Session) (c : Connection) : (s.setUpstream c).client = s.client := by
  unfold setUpstream
  split <;> rfl

theorem isOver_setUpstream (s : Session) (c : Connection) : (s.setUpstream c).isOver = s.isOver := by
  unfold setUpstream
  split <;> simp_all [isOver]

theorem upstream?_setUpstream {s : Session} (held : s.upstream? = some c) (later : Connection) :
    (s.setUpstream later).upstream? = some later := by
  unfold upstream? at held
  split at held
  · rename_i phase
    simp [setUpstream, phase, upstream?]
  · rename_i phase
    cases held
    simp [setUpstream, phase, upstream?]
  all_goals cases held

theorem client_setPending (s : Session) (left : Bytes) :
    (s.setPending left).client = s.client := by
  unfold setPending
  split <;> rfl

theorem upstream?_setPending (s : Session) (left : Bytes) :
    (s.setPending left).upstream? = s.upstream? := by
  unfold setPending
  split <;> simp_all [upstream?]

theorem isOver_setPending (s : Session) (left : Bytes) :
    (s.setPending left).isOver = s.isOver := by
  unfold setPending
  split <;> simp_all [isOver]

-- Everything that one action can do, with the guard under which it does it. Calls that a session
-- makes on its way out stay in `finish`, `shutQuietly` and `relayed`.
inductive Step (p : Policy) (s : Session) : Action → Session × Journal → Prop where
  | farClient :
      Step p s (.far .client event)
        ({ s with client := s.client.far event }, heard .client s.client event)
  | farUpstream (held : s.upstream? = some c) :
      Step p s (.far .upstream event) (s.setUpstream (c.far event), heard .upstream c event)
  | requestUnheld (phase : s.phase = .awaitingRequest)
      (large : Limits.largest < p.limits.request) :
      Step p s .read (breakDown s.client none)
  | requestFails (phase : s.phase = .awaitingRequest) (fits : ¬ Limits.largest < p.limits.request)
      (took : s.client.read p.limits.request = some (.error e, c)) :
      Step p s .read (finish c none (.error (.io e)))
  | requestEnds (phase : s.phase = .awaitingRequest) (fits : ¬ Limits.largest < p.limits.request)
      (took : s.client.read p.limits.request = some (.ok [], c)) :
      Step p s .read (after [.read .client []] (finish c none (.ok .closed)))
  | requestMalformed (phase : s.phase = .awaitingRequest)
      (fits : ¬ Limits.largest < p.limits.request)
      (took : s.client.read p.limits.request = some (.ok raw, c)) (full : raw ≠ [])
      (judged : p.judge raw = (.fail e, events)) :
      Step p s .read
        (after (.read .client raw :: events.map .log) (finish c none (.error (.malformed e))))
  | requestAnswered (phase : s.phase = .awaitingRequest)
      (fits : ¬ Limits.largest < p.limits.request)
      (took : s.client.read p.limits.request = some (.ok raw, c)) (full : raw ≠ [])
      (judged : p.judge raw = (.answer response outcome, events)) :
      Step p s .read ({ client := c, phase := .answering (Response.bytes response) outcome },
        .read .client raw :: events.map .log)
  | requestDials (phase : s.phase = .awaitingRequest) (fits : ¬ Limits.largest < p.limits.request)
      (took : s.client.read p.limits.request = some (.ok raw, c)) (full : raw ≠ [])
      (judged : p.judge raw = (.dial dest errand, events)) :
      Step p s .read (after (.read .client raw :: events.map .log)
        (dialTo c dest errand (Dial.start dest.host)))
  | resolved (phase : s.phase = .dialing dest errand .lookingUp) :
      Step p s (.resolved answer) (dialTo s.client dest errand (Dial.lookedUp answer))
  | dialed (phase : s.phase = .dialing dest errand (.trying ip others)) :
      Step p s (.dialed answer) (dialTo s.client dest errand (Dial.tried others answer))
  | replyUnheld (phase : s.phase = .joined upstream dest .awaitingReply)
      (large : Limits.largest < p.limits.reply) :
      Step p s .read (breakDown s.client (some upstream))
  | replyFails (phase : s.phase = .joined upstream dest .awaitingReply)
      (fits : ¬ Limits.largest < p.limits.reply)
      (took : upstream.read p.limits.reply = some (.error e, later)) :
      Step p s .read (finish s.client (some later) (.error (.io e)))
  | replyTaken (phase : s.phase = .joined upstream dest .awaitingReply)
      (fits : ¬ Limits.largest < p.limits.reply)
      (took : upstream.read p.limits.reply = some (.ok data, later)) :
      Step p s .read ({ s with phase := .joined later dest (.sendingReply data.length data) },
        [.read .upstream data])
  | writeFails (pending : s.pending? = some (who, c, left)) (more : left ≠ [])
      (wrote : c.write left size = some (.error e)) :
      Step p s (.write size) (finish s.client s.upstream? (.error (.io e)))
  | writes (pending : s.pending? = some (who, c, left)) (more : left ≠ [])
      (wrote : c.write left size = some (.ok (accepted, rest))) :
      Step p s (.write size) (s.setPending rest, [.wrote who accepted])
  | answered (phase : s.phase = .answering [] outcome) :
      Step p s (.write size) (after (shutQuietly .client s.client).2
        (finish (shutQuietly .client s.client).1 none (.ok outcome)))
  | established (phase : s.phase = .joined upstream dest (.establishing [])) :
      Step p s (.write size)
        ({ s with phase := .joined upstream dest (.tunneling {}) }, [.log (.established dest)])
  | requestSent (phase : s.phase = .joined upstream dest (.sendingRequest [])) :
      Step p s (.write size) ({ s with phase := .joined upstream dest .awaitingReply }, [])
  | replySent (phase : s.phase = .joined upstream dest (.sendingReply total [])) :
      Step p s (.write size) (relayed s.client upstream dest total)
  | tunnel (phase : s.phase = .joined upstream dest (.tunneling t))
      (moved : t.act p.limits.tunnel ⟨s.client, upstream⟩ a = some (t', ends, journal)) :
      Step p s (.tunnel a)
        ({ client := ends.client, phase := .joined ends.upstream dest (.tunneling t') }, journal)
  | conclude (phase : s.phase = .joined upstream dest (.tunneling t))
      (done : t.summary? = some summary) :
      Step p s .conclude (after [.log (.tunnelClosed dest summary)]
        (finish s.client (some upstream) (.ok (.tunneled summary))))

theorem far_sound {p : Policy} {s : Session} (h : s.far who event = some moved) :
    Step p s (.far who event) moved := by
  cases who with
  | client =>
    cases h
    cases event <;> exact .farClient
  | upstream =>
    obtain ⟨c, held, rfl⟩ := Option.map_eq_some_iff.1 h
    cases event <;> exact .farUpstream held

theorem receive_sound {p : Policy} {s : Session} (phase : s.phase = .awaitingRequest)
    (fits : ¬ Limits.largest < p.limits.request)
    (took : s.client.read p.limits.request = some (.ok raw, c)) :
    Step p s .read (after [.read .client raw] (receive p c raw)) := by
  unfold receive
  cases raw with
  | nil => exact .requestEnds phase fits took
  | cons b bytes =>
    have full : b :: bytes ≠ [] := List.cons_ne_nil b bytes
    rcases judged : p.judge (b :: bytes) with ⟨judgement, events⟩
    cases judgement with
    | fail e => simpa [judged, after] using Step.requestMalformed phase fits took full judged
    | answer response outcome =>
      simpa [judged, after] using Step.requestAnswered phase fits took full judged
    | dial dest errand => simpa [judged, after] using Step.requestDials phase fits took full judged

theorem read_sound {p : Policy} {s : Session} (h : s.read p = some moved) :
    Step p s .read moved := by
  unfold read at h
  split at h
  · rename_i phase
    split at h
    · rename_i large
      cases h
      exact .requestUnheld phase large
    · rename_i fits
      obtain ⟨⟨result, client⟩, took, rfl⟩ := Option.map_eq_some_iff.1 h
      cases result with
      | error e => exact .requestFails phase fits took
      | ok raw => exact receive_sound phase fits took
  · rename_i phase
    split at h
    · rename_i large
      cases h
      exact .replyUnheld phase large
    · rename_i fits
      obtain ⟨⟨result, later⟩, took, rfl⟩ := Option.map_eq_some_iff.1 h
      cases result with
      | error e => exact .replyFails phase fits took
      | ok data => exact .replyTaken phase fits took
  · cases h

theorem written_sound {p : Policy} {s : Session} (pending : s.pending? = some (who, c, []))
    (h : s.written = some moved) : Step p s (.write size) moved := by
  unfold pending? at pending
  unfold written at h
  split at pending <;> cases pending <;> rename_i phase <;> rw [phase] at h <;> cases h
  · exact .answered phase
  · exact .established phase
  · exact .requestSent phase
  · exact .replySent phase

theorem write_sound {p : Policy} {s : Session} (h : s.write size = some moved) :
    Step p s (.write size) moved := by
  unfold write at h
  split at h
  · cases h
  · rename_i pending
    exact written_sound pending h
  · rename_i more pending
    obtain ⟨result, wrote, rfl⟩ := Option.map_eq_some_iff.1 h
    cases result with
    | error e => exact .writeFails pending more wrote
    | ok parts => exact .writes pending more wrote

theorem act_sound {p : Policy} {s : Session} {a : Action} (h : s.act p a = some moved) :
    Step p s a moved := by
  cases a with
  | far who event => exact far_sound h
  | read => exact read_sound h
  | write size => exact write_sound h
  | resolved answer =>
    simp only [act] at h
    split at h
    · rename_i phase
      cases h
      exact .resolved phase
    · cases h
  | dialed answer =>
    simp only [act] at h
    split at h
    · rename_i phase
      cases h
      exact .dialed phase
    · cases h
  | tunnel a =>
    simp only [act, tunnel] at h
    split at h
    · rename_i phase
      obtain ⟨⟨t, ends, journal⟩, moved, rfl⟩ := Option.map_eq_some_iff.1 h
      exact .tunnel phase moved
    · cases h
  | conclude =>
    simp only [act, conclude] at h
    split at h
    · rename_i phase
      obtain ⟨summary, done, rfl⟩ := Option.map_eq_some_iff.1 h
      exact .conclude phase done
    · cases h

theorem act_complete {p : Policy} {s : Session} {a : Action} (step : Step p s a moved) :
    s.act p a = some moved := by
  cases step with
  | farClient => rename_i event; cases event <;> rfl
  | farUpstream held => rename_i event; cases event <;> simp [act, far, held, heard]
  | requestUnheld phase large => simp [act, read, phase, large]
  | requestFails phase fits took => simp [act, read, phase, fits, took]
  | requestEnds phase fits took => simp [act, read, phase, fits, took, receive]
  | requestMalformed phase fits took full judged =>
    simp [act, read, phase, fits, took, receive, full, judged, after]
  | requestAnswered phase fits took full judged =>
    simp [act, read, phase, fits, took, receive, full, judged, after]
  | requestDials phase fits took full judged =>
    simp [act, read, phase, fits, took, receive, full, judged, after]
  | resolved phase => simp [act, phase]
  | dialed phase => simp [act, phase]
  | replyUnheld phase large => simp [act, read, phase, large]
  | replyFails phase fits took => simp [act, read, phase, fits, took]
  | replyTaken phase fits took => simp [act, read, phase, fits, took]
  | writeFails pending _ wrote => simp [act, write, pending, wrote]
  | writes pending _ wrote => simp [act, write, pending, wrote]
  | answered phase => simp [act, write, written, pending?, phase]
  | established phase => simp [act, write, written, pending?, phase]
  | requestSent phase => simp [act, write, written, pending?, phase]
  | replySent phase => simp [act, write, written, pending?, phase]
  | tunnel phase moved => simp [act, tunnel, phase, moved]
  | conclude phase done => simp [act, conclude, phase, done]

theorem act_exact {p : Policy} {s : Session} {a : Action} :
    s.act p a = some moved ↔ Step p s a moved := ⟨act_sound, act_complete⟩

abbrev Ran (p : Policy) : Session → List Action → Session → Journal → Prop :=
  GatedProxy.Ran (Step p)

theorem runs (p : Policy) : Runs (act p) (run p) := ⟨fun _ => rfl, fun _ _ _ => rfl⟩

theorem run_exact {p : Policy} {s t : Session} :
    s.run p actions = some (t, journal) ↔ Ran p s actions t journal := (runs p).exact act_exact

end GatedProxy.Session
