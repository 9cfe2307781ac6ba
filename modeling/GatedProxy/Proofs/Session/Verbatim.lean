import GatedProxy.Proofs.Session.Relay
import GatedProxy.Session.Run

namespace GatedProxy.Session

variable {p : Policy} {s : Session} {j : Journal} {actions : List Action}

theorem endWith_over (client : Connection) (upstream : Option Connection)
    (result : Option SessionResult) :
    (endWith client upstream result).1.isOver = true ∧
      (endWith client upstream result).1.result? = result := by
  cases upstream <;> exact ⟨rfl, rfl⟩

-- A failed write ends the session with its error. A write to the upstream comes before any to the
-- client.
theorem WriteFailed.returned (ran : Session.run p {} actions = some (s, j))
    (failed : WriteFailed p actions who e) : s.result? = some (.error (.io e)) ∧
      (who = .upstream → j.received .client = []) := by
  obtain ⟨before, size, later, middle, opening, c, left, rfl, path, pending, more, wrote⟩ := failed
  obtain ⟨ended, result⟩ := endWith_over middle.client middle.upstream? (some (.error (.io e)))
  obtain ⟨same, rfl⟩ := ended_at ran path (.writeFails pending more wrote) ended
  refine ⟨same.trans result, ?_⟩
  rintro rfl
  have owed := Ran.owed (run_exact.1 path)
  rw [Journal.received_append, (finish_quiet _ _ _).received, List.append_nil]
  unfold pending? at pending
  split at pending <;> cases pending
  rename_i phase
  obtain ⟨errand, greeting, row, reached, exchanged⟩ := owed.joined phase
  cases exchanged with
  | requests unread nothing => exact nothing

theorem ReadFailed.returned (ran : Session.run p {} actions = some (s, j))
    (failed : ReadFailed p actions e) :
    s.result? = some (.error (.io e)) ∧ j.received .client = [] := by
  obtain ⟨before, later, middle, opening, upstream, dest, rfl, path, phase, fits, fault⟩ := failed
  have took : upstream.read p.limits.reply = some (.error e, upstream) := by
    simp [Connection.read, fault]
  obtain ⟨ended, result⟩ := endWith_over middle.client (some upstream) (some (.error (.io e)))
  have step : Step p middle .read (finish middle.client (some upstream) (.error (.io e))) :=
    .replyFails phase (Nat.not_lt.2 fits) took
  obtain ⟨same, rfl⟩ := ended_at ran path step ended
  refine ⟨same.trans result, ?_⟩
  obtain ⟨errand, greeting, row, reached, exchanged⟩ := (Ran.owed (run_exact.1 path)).joined phase
  rw [Journal.received_append, (finish_quiet _ _ _).received, List.append_nil]
  cases exchanged with
  | awaits unread nothing => exact nothing

theorem writes_on (pending : s.pending? = some (who, c, left)) :
    ∃ moved, s.act p (.write left.length) = some moved := by
  cases left with
  | nil =>
    unfold pending? at pending
    split at pending <;> cases pending <;> rename_i phase <;>
      simp [act, write, pending?, written, phase]
  | cons b bytes =>
    have wrote : ∃ result, c.write (b :: bytes) (b :: bytes).length = some result := by
      unfold Connection.write
      split
      · exact ⟨_, rfl⟩
      · simp
    obtain ⟨result, wrote⟩ := wrote
    cases result with
    | error e => exact ⟨_, act_complete (.writeFails pending (List.cons_ne_nil b bytes) wrote)⟩
    | ok parts => exact ⟨_, act_complete (.writes pending (List.cons_ne_nil b bytes) wrote)⟩

-- A relay that is not over can go on by itself, or it waits for an upstream that keeps silent.
def Proceeds (p : Policy) (s : Session) : Prop :=
  (∃ a moved, a.isFar = false ∧ s.act p a = some moved) ∨
    ∃ c, s.upstream? = some c ∧ c.unread = [] ∧ c.finished = false ∧ c.recvFault = none

theorem Relaying.proceeds (relaying : Relaying p raw actions j s.phase)
    (goesOn : s.isOver = false) : Proceeds p s := by
  have writes {who : End} {c : Connection} {left : Bytes}
      (pending : s.pending? = some (who, c, left)) : Proceeds p s := by
    obtain ⟨moved, acted⟩ := writes_on pending
    exact .inl ⟨_, moved, rfl, acted⟩
  generalize phase : s.phase = now at relaying
  cases relaying with
  | asks => exact writes (by rw [pending?, phase])
  | replies => exact writes (by rw [pending?, phase])
  | ended => simp [isOver, phase] at goesOn
  | awaits asked unread nothing =>
    rename_i upstream dest
    by_cases large : Limits.largest < p.limits.reply
    · exact .inl ⟨.read, _, rfl, act_complete (.replyUnheld phase large)⟩
    · cases took : upstream.read p.limits.reply with
      | none =>
        refine .inr ⟨upstream, by rw [upstream?, phase], ?_⟩
        unfold Connection.read at took
        split at took
        · cases took
        · split at took <;> simp_all
      | some took' =>
        obtain ⟨result, later⟩ := took'
        cases result with
        | error e => exact .inl ⟨.read, _, rfl, act_complete (.replyFails phase large took)⟩
        | ok data => exact .inl ⟨.read, _, rfl, act_complete (.replyTaken phase large took)⟩

structure Verbatim (p : Policy) (raw : Bytes) (actions : List Action) (s : Session) (j : Journal) :
    Prop where
  request : raw <+: j.sent .client ∧ raw.length ≤ p.limits.request
  course : Relaying p raw actions j s.phase
  cut : ∀ who e, WriteFailed p actions who e → s.result? = some (.error (.io e)) ∧
    (who = .upstream → j.received .client = [])
  unanswered : ∀ e, ReadFailed p actions e → s.result? = some (.error (.io e)) ∧
    j.received .client = []
  closed : s.client.dropped = s.isOver ∧ ∃ c, s.upstream? = some c ∧ c.dropped = s.isOver
  goesOn : s.isOver = false → Proceeds p s

-- The upstream is sent the one read of the request and nothing else, and the client the one read of
-- the reply. A failure at the upstream leaves the client without a byte, and one at the client
-- leaves it with a part.
theorem relay_verbatim (ran : Session.run p {} actions = some (s, j))
    (first : j.firstRead? = some raw) (asks : p.Calls raw (.dial dest (.relay raw)))
    (connected : .opened ∈ j) : Verbatim p raw actions s j := by
  have path := run_exact.1 ran
  have full : raw ≠ [] := by
    rintro rfl
    cases asks with
    | relay passes => cases passes.parsed
  have judged := (Policy.calls_exact full).1 asks
  obtain ⟨bound, relaying⟩ := Ran.relaying path first judged connected
  obtain ⟨client, upstream⟩ := Ran.holds path
  refine ⟨⟨?_, bound⟩, relaying, ?_, ?_, ⟨client, ?_⟩, relaying.proceeds⟩
  · have conserved := Ran.conserves path .client
    rw [← conserved]
    exact (Journal.firstRead?_taken first).trans (List.prefix_append _ _)
  · intro who e failed
    exact failed.returned ran
  · intro e failed
    exact failed.returned ran
  · have held : ∃ c, s.upstream? = some c := by
      unfold upstream?
      generalize s.phase = now at relaying
      cases relaying <;> exact ⟨_, rfl⟩
    obtain ⟨c, held⟩ := held
    exact ⟨c, held, upstream c held⟩

theorem relay_verbatim_reset :
    let p : Policy := { credentials := .ofList [⟨"u".toList, "a".toList⟩] }
    let request := Text.utf8
      "GET http://1.2.3.4/ HTTP/1.1\r\nProxy-Authorization: Basic dTph\r\n\r\n".toList
    let actions : List Action := [.far .client (.send request), .read, .dialed (.ok []),
      .write request.length, .write 0, .far .client (.fault .send (.os 104)),
      .far .upstream (.send [104, 105]), .read, .write 2]
    p.Calls request (.dial ⟨"1.2.3.4".toList, 80⟩ (.relay request)) ∧
      ∃ s j, Session.run p {} actions = some (s, j) ∧ j.firstRead? = some request ∧ .opened ∈ j ∧
        j.received .upstream = request ∧ j.reads .upstream = [[104, 105]] ∧
        j.received .client = [] ∧ s.result? = some (.error (.io (.os 104))) := by
  intro p request actions
  have full : request ≠ [] := by decide +kernel
  refine ⟨(Policy.calls_exact full).2 (by decide +kernel), ?_⟩
  have last : (Session.run p {} actions).any (fun done => done.2.firstRead? = some request ∧
      .opened ∈ done.2 ∧ done.2.received .upstream = request ∧
      done.2.reads .upstream = [[104, 105]] ∧ done.2.received .client = [] ∧
      done.1.result? = some (.error (.io (.os 104)))) = true := by decide +kernel
  obtain ⟨⟨s, j⟩, ran, seen⟩ := (Option.any_eq_true _ _).1 last
  exact ⟨s, j, ran, of_decide_eq_true seen⟩

theorem relay_verbatim_early :
    let p : Policy := {
      credentials := .ofList [⟨"u".toList, "a".toList⟩]
      limits := { reply := 3 } }
    let request := Text.utf8
      "GET http://1.2.3.4/ HTTP/1.1\r\nProxy-Authorization: Basic dTph\r\n\r\n".toList
    let actions : List Action := [.far .client (.send request), .read, .dialed (.ok [1]),
      .far .client (.send [9]), .write 10, .write (request.length - 10), .write 0,
      .far .upstream (.send [2, 3, 4]), .read, .far .upstream (.send [5]), .write 1, .write 2,
      .write 0]
    ∃ s j, Session.run p {} actions = some (s, j) ∧ Verbatim p request actions s j ∧
      s.result? = some (.ok (.relayed 3)) ∧ j.received .client = [1, 2, 3] := by
  intro p request actions
  have last : (Session.run p {} actions).any (fun done => done.2.firstRead? = some request ∧
      .opened ∈ done.2 ∧ done.1.result? = some (.ok (.relayed 3)) ∧
      done.2.received .client = [1, 2, 3]) = true := by decide +kernel
  obtain ⟨⟨s, j⟩, ran, seen⟩ := (Option.any_eq_true _ _).1 last
  obtain ⟨first, connected, result, given⟩ := of_decide_eq_true seen
  have full : request ≠ [] := by decide +kernel
  have judged : (p.judge request).1 = .dial ⟨"1.2.3.4".toList, 80⟩ (.relay request) := by
    decide +kernel
  have verbatim := relay_verbatim ran first ((Policy.calls_exact full).2 judged) connected
  exact ⟨s, j, ran, verbatim, result, given⟩

end GatedProxy.Session
