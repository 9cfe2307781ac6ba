import GatedProxy.Proofs.Session.TunnelRun

namespace GatedProxy

theorem Stop.result?_exact {why : Stop} (result : why.result? = some error) :
    (error = none ↔ why = .endOfFile) ∧
      (∀ e, error = some (.system e) ↔ why = .readFailed e ∨ why = .writeFailed e) ∧
      (error = some .unheld ↔ why = .unheld) := by
  cases why with
  | unheld =>
    cases result
    simp
  | endOfFile =>
    cases result
    simp
  | readFailed e =>
    cases result
    simp
  | writeFailed e =>
    cases result
    simp
  | cutOff writing => cases result

namespace Session

-- A tunnel that has returned. `before` led to its return, and `s` and `j` are of any later moment.
structure TornDown (p : Policy) (origin : Session) (before : List Action) (s : Session)
    (j : Journal) (summary : TunnelSummary) : Prop where
  result : s.result? = some (.ok (.tunneled summary))
  stopped : ∃ middle opening rest upstream dest t,
    Session.run p origin before = some (middle, opening) ∧
    middle.phase = .joined upstream dest (.tunneling t) ∧
    t.loop summary.closedBy = .finished summary.error ∧
    (t.loop summary.closedBy.other).isDone = true ∧
    (summary.error = none → (Ends.get ⟨middle.client, upstream⟩ summary.closedBy.source).Dry) ∧
    j = opening ++ rest ∧ ∀ who, rest.taken who = [] ∧ rest.received who = []
  clean : summary.error = none ↔ origin.stops p summary.closedBy before = [.endOfFile]
  failed : ∀ e, summary.error = some (.system e) ↔
    origin.stops p summary.closedBy before = [.readFailed e] ∨
      origin.stops p summary.closedBy before = [.writeFailed e]
  unheld : summary.error = some .unheld ↔ origin.stops p summary.closedBy before = [.unheld]
  dropped : s.client.dropped = true ∧ ∃ c, s.upstream? = some c ∧ c.dropped = true

variable {p : Policy} {origin s : Session} {j : Journal} {actions : List Action}

theorem Copying.cause {whys : Direction → List Stop} {t : Tunnel} {ends : Ends}
    (copying : Copying p whys j t ends) {d : Direction} (finished : t.loop d = .finished error) :
    ∃ why, whys d = [why] ∧ why.result? = some error := by
  have account := copying.account d
  rw [finished] at account
  obtain ⟨why, only, result, _⟩ := account
  exact ⟨why, only, result⟩

theorem TunnelCourse.tornDown (course : TunnelCourse p origin actions s j)
    (space : 0 < p.limits.tunnel) (ended : s.isOver = true) :
    ∃ before later summary, actions = before ++ .conclude :: later ∧
      TornDown p origin before s j summary := by
  cases course with
  | copies phase copying =>
    rw [isOver, phase] at ended
    cases ended
  | returned path phase copying done closed dry quiet uncounted =>
    rename_i before middle opening upstream dest t summary ends rest later
    obtain ⟨finished, other, _⟩ := Tunnel.summary?_done copying.noted done
    obtain ⟨why, only, result⟩ := copying.cause finished
    obtain ⟨clean, failed, unheld⟩ := Stop.result?_exact result
    refine ⟨before, later, summary, rfl, ?_, ?_, ?_, ?_, ?_, ?_⟩
    · simp [result?, closed.phase]
    · refine ⟨middle, opening, rest, upstream, dest, t, run_exact.2 path, phase, finished, other,
        ?_, rfl, fun who => ⟨quiet.taken who, quiet.received who⟩⟩
      intro none
      rw [none] at finished
      apply copying.dry space
      rw [finished]
      rfl
    · simpa [only] using clean
    · simpa [only] using failed
    · simpa [only] using unheld
    · refine ⟨closed.client ▸ closed.dropped .client, ends.upstream, ?_, closed.dropped .upstream⟩
      simp [upstream?, closed.phase]

theorem TunnelCourse.goesOn (course : TunnelCourse p origin actions s j)
    (space : 0 < p.limits.tunnel) (client : s.client.finished = false)
    (upstream : ∀ c, s.upstream? = some c → c.finished = false)
    (sound : ∀ d, ∀ why ∈ origin.stops p d actions, why.isFailure = false) : s.isOver = false := by
  cases course with
  | copies phase copying => simp [isOver, phase]
  | returned path phase copying done closed dry quiet uncounted =>
    rename_i before middle opening held dest t summary ends rest later
    obtain ⟨finished, _, _⟩ := Tunnel.summary?_done copying.noted done
    obtain ⟨why, only, result⟩ := copying.cause finished
    have clean : why.isFailure = false := by
      apply sound summary.closedBy
      rw [stops_append (run_exact.2 path), only]
      exact List.mem_append_left _ (List.mem_singleton.2 rfl)
    cases why with
    | unheld => cases clean
    | readFailed e => cases clean
    | writeFailed e => cases clean
    | cutOff writing => cases result
    | endOfFile =>
      have still : ∀ who, (ends.get who).finished = false := by
        intro who
        cases who with
        | client =>
          rw [closed.client] at client
          exact client
        | upstream => exact upstream ends.upstream (by simp [upstream?, closed.phase])
      -- A source at its end was at its end when the tunnel returned, and still is.
      rw [← Option.some.inj result] at finished
      have dried := copying.dry space summary.closedBy
      rw [finished] at dried
      obtain ⟨_, ended⟩ := dry _ (dried rfl)
      rw [still] at ended
      cases ended

theorem unheld_of_stops {d : Direction} (unheld : .unheld ∈ origin.stops p d actions) :
    Limits.largest < p.limits.tunnel := by
  obtain ⟨t, a, found⟩ := of_mem_views unheld
  unfold stop? at found
  split at found
  · split at found
    · exact Tunnel.unheld_of_stop? found
    · cases found
  · cases found

-- A tunnel returns for a cause, reports the cause of the direction that finished first and no other
-- one, and moves no byte from then on.
theorem tunnel_end {client upstream : Connection} {dest : Authority} (space : 0 < p.limits.tunnel)
    (ran : Session.run p (ofTunnel client upstream dest) actions = some (s, j)) :
    (s.client.finished = false → (∀ c, s.upstream? = some c → c.finished = false) →
      (∀ d, ∀ why ∈ (ofTunnel client upstream dest).stops p d actions, why.isFailure = false) →
      s.isOver = false) ∧
    (s.isOver = true → ∃ before later summary, actions = before ++ .conclude :: later ∧
      TornDown p (ofTunnel client upstream dest) before s j summary) ∧
    ∀ d, .unheld ∈ (ofTunnel client upstream dest).stops p d actions →
      Limits.largest < p.limits.tunnel := by
  have course := TunnelCourse.of_ran (run_exact.1 ran)
  exact ⟨course.goesOn space, course.tornDown space, fun d => unheld_of_stops⟩

theorem tunnel_end_shutdown :
    let p : Policy := { credentials := .ofList [⟨"u".toList, "a".toList⟩], limits := { tunnel := 2 } }
    let origin := ofTunnel {} { unread := [1, 2, 3], shutdownFault := some (.os 5) } ⟨"h".toList, 80⟩
    let actions : List Action := [.far .client .finish, .tunnel (.copy .down 0),
      .tunnel (.copy .down 1), .tunnel (.copy .up 0), .tunnel (.copy .up 0), .tunnel (.settle .up),
      .tunnel .abandon, .conclude, .far .upstream (.send [4])]
    ∃ s j before summary, Session.run p origin actions = some (s, j) ∧
      TornDown p origin before s j summary ∧ origin.stops p .down actions = [.cutOff true] ∧
      .log (.shutdownFailed .up (.os 5)) ∈ j := by
  intro p origin actions
  have possible : (Session.run p origin actions).isSome = true := by decide +kernel
  obtain ⟨⟨s, j⟩, ran⟩ := Option.isSome_iff_exists.1 possible
  have last : (Session.run p origin actions).any (fun done => done.1.isOver = true ∧
      .log (.shutdownFailed .up (.os 5)) ∈ done.2) = true := by decide +kernel
  rw [ran] at last
  obtain ⟨ended, failed⟩ := of_decide_eq_true last
  obtain ⟨before, _, summary, _, torn⟩ := (tunnel_end (by decide) ran).2.1 ended
  exact ⟨s, j, before, summary, ran, torn, by decide +kernel, failed⟩

end Session

end GatedProxy
