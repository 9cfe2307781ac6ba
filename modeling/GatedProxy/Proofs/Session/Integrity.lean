import GatedProxy.Proofs.Session.Establish

namespace GatedProxy

def Journal.Delivered (j : Journal) (ends : Ends) (d : Direction) : Prop :=
  j.received d.sink = j.taken d.source ∧ (ends.get d.source).Dry

namespace Session

open Tunnel

-- A tunnel on its way, with what has happened since it was established.
structure Flowing (p : Policy) (j : Journal) (t : Tunnel) (ends : Ends) : Prop where
  flow (d : Direction) : (t.loop d).Flow (j.received d.sink) (j.taken d.source)
  dry : 0 < p.limits.tunnel → Exhausted t ends
  noted : Noted t
  idle : Limits.largest < p.limits.tunnel → Idle t ∧ ∀ who, j.received who = []

-- A tunnel at its end: what a direction has delivered is a part of what it has taken, and all of it
-- in the direction whose clean end is reported.
structure Flowed (p : Policy) (j : Journal) (ends : Ends) (result : Option SessionResult) : Prop where
  part (d : Direction) : j.received d.sink <+: j.taken d.source
  whole : 0 < p.limits.tunnel → ∀ summary, result = some (.ok (.tunneled summary)) →
    summary.error = none → j.Delivered ends summary.closedBy
  idle : Limits.largest < p.limits.tunnel → (∀ who, j.received who = []) ∧
    ∀ summary, result = some (.ok (.tunneled summary)) → summary.error = some .unheld

inductive Tunneled (p : Policy) (j : Journal) : Session → Prop where
  | copies (ends : Ends) (flowing : Flowing p j t ends) :
      Tunneled p j { client := ends.client, phase := .joined ends.upstream dest (.tunneling t) }
  | ended (ends : Ends) (flowed : Flowed p j ends result) :
      Tunneled p j { client := ends.client, phase := .over (some ends.upstream) result }

namespace Tunneled

variable {p : Policy} {s : Session} {j : Journal}

theorem start (p : Policy) (ends : Ends) (dest : Authority) :
    Tunneled p []
      { client := ends.client, phase := .joined ends.upstream dest (.tunneling {}) } := by
  refine .copies ends ⟨?_, ?_, nofun, fun _ => ⟨?_, fun _ => rfl⟩⟩
  · intro d
    cases d <;> rfl
  · intro space d finished
    cases d <;> cases finished
  · intro d
    cases d <;> rfl

theorem dry_far (ends : Ends) (who : End) (event : FarEvent) (x : End) (dry : (ends.get x).Dry) :
    ((ends.set who ((ends.get who).far event)).get x).Dry := by
  by_cases same : who = x
  · cases same
    rw [get_set]
    exact dry.far event
  · rw [get_set_other ends _ same]
    exact dry

theorem dry_drop (ends : Ends) (x : End) (dry : (ends.get x).Dry) :
    (Ends.get ⟨ends.client.drop, ends.upstream.drop⟩ x).Dry := by
  cases x <;> exact dry

theorem received_heard (j : Journal) (who : End) (c : Connection) (event : FarEvent) (x : End) :
    (j ++ heard who c event).received x = j.received x := by
  rw [Journal.received_append, heard_received, List.append_nil]

theorem taken_heard (j : Journal) (who : End) (c : Connection) (event : FarEvent) (x : End) :
    (j ++ heard who c event).taken x = j.taken x := by
  rw [Journal.taken_append, heard_taken, List.append_nil]

theorem far_copies {ends : Ends} (flowing : Flowing p j t ends) (who : End) (c : Connection)
    (event : FarEvent) (dest : Authority) :
    let later := ends.set who ((ends.get who).far event)
    Tunneled p (j ++ heard who c event)
      { client := later.client, phase := .joined later.upstream dest (.tunneling t) } := by
  refine .copies _ ⟨?_, ?_, flowing.noted, ?_⟩
  · intro d
    rw [received_heard, taken_heard]
    exact flowing.flow d
  · intro space d finished
    exact dry_far ends who event d.source (flowing.dry space d finished)
  · simp only [received_heard]
    exact flowing.idle

theorem far_ended {ends : Ends} (flowed : Flowed p j ends result) (who : End) (c : Connection)
    (event : FarEvent) :
    let later := ends.set who ((ends.get who).far event)
    Tunneled p (j ++ heard who c event)
      { client := later.client, phase := .over (some later.upstream) result } := by
  refine .ended _ ⟨?_, ?_, ?_⟩
  · intro d
    rw [received_heard, taken_heard]
    exact flowed.part d
  · intro space summary returned clean
    obtain ⟨equal, dry⟩ := flowed.whole space summary returned clean
    refine ⟨?_, dry_far ends who event _ dry⟩
    rw [received_heard, taken_heard]
    exact equal
  · simp only [received_heard]
    exact flowed.idle

theorem concludes {more : Journal} {ends : Ends} (flowing : Flowing p j t ends)
    (done : t.summary? = some summary) (quiet : more.Quiet) :
    Tunneled p (j ++ more)
      { client := ends.client.drop,
        phase := .over (some ends.upstream.drop) (some (.ok (.tunneled summary))) } := by
  have received (x : End) : (j ++ more).received x = j.received x := by
    rw [Journal.received_append, quiet.received, List.append_nil]
  have taken (x : End) : (j ++ more).taken x = j.taken x := by
    rw [Journal.taken_append, quiet.taken, List.append_nil]
  have finished := flowing.noted _ _ (first_of_summary? done)
  refine .ended ⟨ends.client.drop, ends.upstream.drop⟩ ⟨?_, ?_, ?_⟩
  · intro d
    rw [received, taken]
    exact (flowing.flow d).part
  · intro space summary returned clean
    cases returned
    rw [clean] at finished
    have equal := flowing.flow summary.closedBy
    have dried := flowing.dry space summary.closedBy
    rw [finished] at equal dried
    refine ⟨?_, dry_drop ends _ (dried rfl)⟩
    rw [received, taken]
    exact equal
  · intro large
    obtain ⟨idle, nothing⟩ := flowing.idle large
    refine ⟨fun who => (received who).trans (nothing who), ?_⟩
    intro summary returned
    cases returned
    have own := idle summary.closedBy
    rw [finished] at own
    exact CopyLoop.error_of_idle own

theorem step (tunneled : Tunneled p j s) (step : Step p s a moved) :
    Tunneled p (j ++ moved.2) moved.1 := by
  cases tunneled with
  | copies ends flowing =>
    cases step with
    | farClient => exact far_copies flowing .client _ _ _
    | farUpstream held =>
      cases held
      exact far_copies flowing .upstream _ _ _
    | tunnel phase moved =>
      cases phase
      have step := Tunnel.act_sound moved
      refine .copies _ ⟨?_, ?_, step.noted flowing.noted, ?_⟩
      · intro d
        have here := step.flow d (flowing.flow d)
        rw [Journal.received_append, Journal.taken_append]
        exact here
      · intro space
        exact step.exhausted space (flowing.dry space)
      · intro large
        obtain ⟨idle, nothing⟩ := flowing.idle large
        obtain ⟨still, more⟩ := step.idle large idle
        refine ⟨still, fun who => ?_⟩
        rw [Journal.received_append, nothing, more]
        rfl
    | conclude phase done =>
      cases phase
      exact concludes flowing done (.cons (o := .log _) rfl (finish_quiet _ _ _))
    | writeFails pending => cases pending
    | writes pending => cases pending
    | replyUnheld phase => cases phase
    | replyFails phase => cases phase
    | replyTaken phase => cases phase
    | established phase => cases phase
    | requestSent phase => cases phase
    | replySent phase => cases phase
    | _ => contradiction
  | ended ends flowed =>
    cases step with
    | farClient => exact far_ended flowed .client _ _
    | farUpstream held =>
      cases held
      exact far_ended flowed .upstream _ _
    | writeFails pending => cases pending
    | writes pending => cases pending
    | _ => contradiction

theorem part (tunneled : Tunneled p j s) (d : Direction) :
    j.received d.sink <+: j.taken d.source := by
  cases tunneled with
  | copies ends flowing => exact (flowing.flow d).part
  | ended ends flowed => exact flowed.part d

theorem whole (tunneled : Tunneled p j s) (space : 0 < p.limits.tunnel)
    (returned : s.result? = some (.ok (.tunneled summary))) (clean : summary.error = none) :
    j.received summary.closedBy.sink = j.taken summary.closedBy.source ∧
      s.unread summary.closedBy.source = [] := by
  cases tunneled with
  | copies ends flowing => cases returned
  | ended ends flowed =>
    obtain ⟨equal, unread, _⟩ := flowed.whole space summary returned clean
    refine ⟨equal, ?_⟩
    rw [← unread]
    cases summary.closedBy <;> rfl

theorem idle (tunneled : Tunneled p j s) (large : Limits.largest < p.limits.tunnel) :
    (∀ who, j.received who = []) ∧
      ∀ summary, s.result? = some (.ok (.tunneled summary)) → summary.error = some .unheld := by
  cases tunneled with
  | copies ends flowing => exact ⟨(flowing.idle large).2, nofun⟩
  | ended ends flowed => exact flowed.idle large

theorem of_ran {origin : Session} (ran : Ran p origin actions s j)
    (tunneled : Tunneled p [] origin) : Tunneled p j s := by
  induction ran with
  | start => exact tunneled
  | step path step ih => exact ih.step step

end Tunneled

structure Halves (p : Policy) (dest : Authority) (s : Session) (j : Journal) (raw : Bytes)
    (rest : Journal) : Prop where
  first : j.firstRead? = some raw
  judged : (p.judge raw).1 = .dial dest .tunnel
  sent : j.sent .client = raw ++ (rest.taken .client ++ s.unread .client)
  answered : j.sent .upstream = rest.taken .upstream ++ s.unread .upstream
  forwarded : j.received .upstream = rest.received .upstream
  returned : j.received .client = Response.bytes Response.established ++ rest.received .client
  tunneled : Tunneled p rest s

theorem Ran.halves {p : Policy} {s : Session} {j : Journal} (ran : Ran p {} actions s j)
    (logged : .established dest ∈ j.events) : ∃ raw rest, Halves p dest s j raw rest := by
  obtain ⟨before, middle, opening, upstream, later, rest, first, phase, second, rfl⟩ :=
    ran.logs_established logged
  obtain ⟨raw, errand, read, judged, serves⟩ := (Course.of_ran first).standing.joined phase
  have opened := first.opening
  rw [phase] at opened
  obtain ⟨_, told, again, ⟨taken, given, unread, unsent⟩, response⟩ := opened
  cases read.symm.trans again
  rw [List.append_nil] at response
  rw [response] at given
  refine ⟨raw, rest, ?_, ?_, ?_, ?_, ?_, ?_, ?_⟩
  · rw [Journal.firstRead?_append, read]
    rfl
  · cases errand with
    | tunnel => exact judged
    | relay request => cases serves
  · rw [← ran.conserves .client, Journal.taken_append, taken, List.append_assoc]
    rfl
  · rw [← ran.conserves .upstream, Journal.taken_append, unread]
    rfl
  · rw [Journal.received_append, unsent]
    rfl
  · rw [Journal.received_append, given]
    rfl
  · exact .of_ran second (.start p ⟨middle.client, upstream⟩ dest)

-- Through an established tunnel each end gets what the other end sends, in order and from the right
-- byte on, and all of it in the direction whose clean end is reported.
theorem tunnel_integrity {p : Policy} {actions : List Action} {s : Session} {j : Journal}
    {dest : Authority} (ran : Session.run p {} actions = some (s, j))
    (established : .log (.established dest) ∈ j) :
    ∃ raw given, j.firstRead? = some raw ∧ (p.judge raw).1 = .dial dest .tunnel ∧
      raw <+: j.sent .client ∧ j.received .upstream <+: (j.sent .client).drop raw.length ∧
      j.received .client = Response.bytes Response.established ++ given ∧
      given <+: j.sent .upstream ∧
      (0 < p.limits.tunnel → ∀ summary, s.result? = some (.ok (.tunneled summary)) →
        summary.error = none →
          match summary.closedBy with
          | .up => j.received .upstream = (j.sent .client).drop raw.length
          | .down => given = j.sent .upstream) ∧
      (Limits.largest < p.limits.tunnel → j.received .upstream = [] ∧ given = [] ∧
        ∀ summary, s.result? = some (.ok (.tunneled summary)) →
          summary.error = some .unheld) := by
  have logged : .established dest ∈ j.events := List.mem_filterMap.2 ⟨_, established, rfl⟩
  obtain ⟨raw, rest, halves⟩ := (run_exact.1 ran).halves logged
  have tunneled := halves.tunneled
  refine ⟨raw, rest.received .client, halves.first, halves.judged, ?_, ?_, halves.returned, ?_, ?_,
    ?_⟩
  · rw [halves.sent]
    exact List.prefix_append raw _
  · rw [halves.sent, halves.forwarded, List.drop_left]
    exact (tunneled.part .up).trans (List.prefix_append _ _)
  · rw [halves.answered]
    exact (tunneled.part .down).trans (List.prefix_append _ _)
  · intro space summary returned clean
    obtain ⟨equal, none⟩ := tunneled.whole space returned clean
    split
    · rename_i closed
      rw [closed] at equal none
      have empty : s.unread .client = [] := none
      rw [halves.sent, halves.forwarded, List.drop_left, empty, List.append_nil]
      exact equal
    · rename_i closed
      rw [closed] at equal none
      have empty : s.unread .upstream = [] := none
      rw [halves.answered, empty, List.append_nil]
      exact equal
  · intro large
    obtain ⟨nothing, errors⟩ := tunneled.idle large
    exact ⟨halves.forwarded.trans (nothing .upstream), nothing .client, errors⟩

-- A client sends eight bytes with its CONNECT, and finishes. Five are read with the request and go
-- nowhere; the other three cross in two pieces.
theorem tunnel_integrity_connect :
    let p : Policy := {
      credentials := .ofList [⟨"u".toList, "a".toList⟩]
      limits := { request := 60, tunnel := 2 } }
    let request := "CONNECT 1.2.3.4:80\r\nproxy-authorization: Basic dTph\r\n\r\n".toList
    let up (size : Nat) : Action := .tunnel (.copy .up size)
    let actions : List Action := [.far .client (.send (Text.utf8 (request ++ "abcdefgh".toList))),
      .read, .dialed (.ok [1, 2]), .write 39, .write 0, .far .client .finish, up 0, up 2, up 0, up 0,
      up 1, up 0, up 0, up 0, .tunnel (.settle .up), .tunnel (.copy .down 0), .tunnel .abandon,
      .conclude]
    ∃ s j raw given, Session.run p {} actions = some (s, j) ∧ j.firstRead? = some raw ∧
      j.received .upstream = (j.sent .client).drop raw.length ∧
      j.received .client = Response.bytes Response.established ++ given ∧
      given <+: j.sent .upstream := by
  intro p request up actions
  have possible : (Session.run p {} actions).isSome = true := by decide +kernel
  obtain ⟨⟨s, j⟩, ran⟩ := Option.isSome_iff_exists.1 possible
  have logged : (Session.run p {} actions).any
      (fun done => .log (.established ⟨"1.2.3.4".toList, 80⟩) ∈ done.2) = true := by decide +kernel
  have returned : (Session.run p {} actions).map (fun done => done.1.result?) =
      some (some (.ok (.tunneled { counts := { up := 3 }, closedBy := .up, error := none }))) := by
    decide +kernel
  rw [ran] at logged returned
  have established : .log (.established ⟨"1.2.3.4".toList, 80⟩) ∈ j := of_decide_eq_true logged
  obtain ⟨raw, given, first, _, _, _, response, part, whole, _⟩ := tunnel_integrity ran established
  have ended := whole (by decide) _ (Option.some.inj returned) rfl
  exact ⟨s, j, raw, given, ran, first, ended, response, part⟩

end Session

end GatedProxy
