import GatedProxy.Proofs.Session.Integrity
import GatedProxy.Proofs.Tunnel.Account

namespace GatedProxy

namespace Journal

theorem counted_quiet {j : Journal} (none : ∀ d, j.recorded d = 0) : j.counted = {} := by
  have up : j.counted.get .up = 0 := by rw [get_counted, none]; rfl
  have down : j.counted.get .down = 0 := by rw [get_counted, none]; rfl
  calc j.counted = ⟨j.counted.get .up, j.counted.get .down⟩ := rfl
    _ = {} := by rw [up, down]

end Journal

namespace Tunnel

theorem summary?_done {t : Tunnel} (noted : Noted t) (done : t.summary? = some summary) :
    t.loop summary.closedBy = .finished summary.error ∧
      (t.loop summary.closedBy.other).isDone = true ∧ summary.counts = t.counts := by
  have finished := noted _ _ (first_of_summary? done)
  unfold summary? at done
  split at done
  · split at done
    · rename_i both
      cases done
      exact ⟨finished, both, rfl⟩
    · cases done
  · cases done

theorem setLoop_counts (t : Tunnel) (d : Direction) (l : CopyLoop) :
    (t.setLoop d l).counts = t.counts := by
  cases d <;> rfl

theorem Step.counted {t t' : Tunnel} {ends ends' : Ends} {journal : Journal}
    (step : Step room t ends a (t', ends', journal)) :
    t'.counts = t.counts.plus journal.counted := by
  cases step with
  | counts loop =>
    rename_i d total size
    have here : Journal.counted [.counted d total] = Counts.of d (UInt64.ofNat total) :=
      Counts.plus_zero _
    rw [setLoop_counts, here, ← Counts.add_eq_plus]
  | shuts loop shut =>
    rename_i d result closed size
    have none := (Journal.Parting.ended d.sink ((ends.get d.sink).endsAt closed = true)).recorded
    rw [setLoop_counts, Journal.counted_quiet none, Counts.plus_zero]
  | settles => exact (Counts.plus_zero _).symm
  | _ => exact (setLoop_counts ..).trans (Counts.plus_zero _).symm

end Tunnel

namespace Session

def ofTunnel (client upstream : Connection) (dest : Authority) : Session :=
  { client, phase := .joined upstream dest (.tunneling {}) }

def stop? (p : Policy) (s : Session) (d : Direction) : Action → Option Stop
  | .tunnel a =>
    match s.phase with
    | .joined upstream _ (.tunneling t) => t.stop? p.limits.tunnel ⟨s.client, upstream⟩ d a
    | _ => none
  | _ => none

def stops (p : Policy) (s : Session) (d : Direction) : List Action → List Stop :=
  views (act p) (fun s a => s.stop? p d a) s

structure Copying (p : Policy) (whys : Direction → List Stop) (j : Journal) (t : Tunnel)
    (ends : Ends) : Prop where
  account : ∀ d : Direction, (t.loop d).Account p.limits.tunnel (j.recorded d)
    (j.received d.sink).length (whys d)
  counts : t.counts = j.counted
  noted : Tunnel.Noted t
  dry : 0 < p.limits.tunnel → Tunnel.Exhausted t ends

-- A session whose tunnel has returned: nothing is left of it but what far ends still do, and that
-- leads nowhere.
structure Closed (s : Session) (summary : TunnelSummary) (ends : Ends) : Prop where
  client : s.client = ends.client
  phase : s.phase = .over (some ends.upstream) (some (.ok (.tunneled summary)))
  dropped : ∀ who, (ends.get who).dropped = true

-- Where a run that begins with a tunnel has come to. `copies`: the tunnel goes on. `returned`: it
-- has returned, and everything since then was up to far ends and came to nothing.
inductive TunnelCourse (p : Policy) (origin : Session) : List Action → Session → Journal → Prop where
  | copies (phase : s.phase = .joined upstream dest (.tunneling t))
      (copying : Copying p (fun d => origin.stops p d actions) j t ⟨s.client, upstream⟩) :
      TunnelCourse p origin actions s j
  | returned (path : Ran p origin before middle opening)
      (phase : middle.phase = .joined upstream dest (.tunneling t))
      (copying : Copying p (fun d => origin.stops p d before) opening t ⟨middle.client, upstream⟩)
      (done : t.summary? = some summary) (closed : Closed s summary ends)
      (dry : ∀ who, (Ends.get ⟨middle.client, upstream⟩ who).Dry → (ends.get who).Dry)
      (quiet : Journal.Quiet rest) (uncounted : ∀ d, Journal.recorded d rest = 0) :
      TunnelCourse p origin (before ++ .conclude :: later) s (opening ++ rest)

variable {p : Policy} {origin s : Session} {j : Journal} {actions : List Action}

theorem stops_append (ran : Session.run p origin before = some (s, j)) (d : Direction)
    (later : List Action) :
    origin.stops p d (before ++ later) = origin.stops p d before ++ s.stops p d later :=
  (runs p).views_append _ ran later

theorem Ran.stops_snoc (path : Ran p origin actions s j) (d : Direction) (a : Action) :
    origin.stops p d (actions ++ [a]) = origin.stops p d actions ++ (s.stop? p d a).toList :=
  (runs p).views_snoc _ (run_exact.2 path) a

namespace Copying

variable {whys : Direction → List Stop} {t : Tunnel} {ends : Ends}

theorem start (p : Policy) (ends : Ends) : Copying p (fun _ => []) [] {} ends := by
  refine ⟨?_, rfl, nofun, ?_⟩
  · intro d
    cases d <;> exact ⟨rfl, rfl⟩
  · intro space d finished
    cases d <;> cases finished

theorem far (copying : Copying p whys j t ends) (who : End) (c : Connection) (event : FarEvent) :
    Copying p whys (j ++ heard who c event) t (ends.set who ((ends.get who).far event)) := by
  have none : ∀ d, (heard who c event).recorded d = 0 := by
    intro d
    rcases heard_cases who c event with none | ⟨data, one⟩
    · rw [none]
      rfl
    · rw [one]
      rfl
  refine ⟨?_, ?_, copying.noted, ?_⟩
  · intro d
    rw [Journal.recorded_append, none, Tunneled.received_heard]
    exact copying.account d
  · rw [Journal.counted_append, Journal.counted_quiet none, Counts.plus_zero]
    exact copying.counts
  · intro space d finished
    exact Tunneled.dry_far ends who event d.source (copying.dry space d finished)

theorem step {t' : Tunnel} {ends' : Ends} (copying : Copying p whys j t ends)
    (step : Tunnel.Step p.limits.tunnel t ends a (t', ends', journal)) :
    Copying p (fun d => whys d ++ (t.stop? p.limits.tunnel ends d a).toList) (j ++ journal) t'
      ends' := by
  refine ⟨?_, ?_, step.noted copying.noted, ?_⟩
  · intro d
    rw [Journal.recorded_append, Journal.received_append, List.length_append]
    exact step.accounts d (copying.account d)
  · rw [step.counted, copying.counts, Journal.counted_append]
  · intro space
    exact step.exhausted space (copying.dry space)

end Copying

namespace Closed

variable {summary : TunnelSummary} {ends : Ends}

theorem far (closed : Closed s summary ends) (who : End) (event : FarEvent)
    (client : later.client = (ends.set who ((ends.get who).far event)).client)
    (phase : later.phase = .over (some (ends.set who ((ends.get who).far event)).upstream)
      (some (.ok (.tunneled summary)))) :
    Closed later summary (ends.set who ((ends.get who).far event)) := by
  refine ⟨client, phase, ?_⟩
  intro x
  by_cases same : who = x
  · cases same
    rw [Tunnel.get_set]
    exact (Connection.far_dropped _ event).trans (closed.dropped who)
  · rw [Tunnel.get_set_other ends _ same]
    exact closed.dropped x

theorem step (closed : Closed s summary ends) (step : Step p s a moved) :
    moved.2 = [] ∧ ∃ who event, a = .far who event ∧
      Closed moved.1 summary (ends.set who ((ends.get who).far event)) := by
  have phase := closed.phase
  have none : s.pending? = none := by simp [pending?, phase]
  cases step with
  | farClient =>
    rename_i event
    refine ⟨?_, .client, event, rfl, closed.far .client event ?_ phase⟩
    · rw [closed.client]
      exact heard_dropped (closed.dropped .client) .client event
    · rw [closed.client]
      rfl
  | farUpstream held =>
    rename_i c event
    have same : ends.upstream = c := by simpa [upstream?, phase] using held
    cases same
    refine ⟨heard_dropped (closed.dropped .upstream) .upstream event, .upstream, event, rfl,
      closed.far .upstream event ?_ ?_⟩
    · rw [client_setUpstream, closed.client]
      rfl
    · simp [setUpstream, phase, Ends.get, Ends.set]
  | writeFails pending => rw [none] at pending; cases pending
  | writes pending => rw [none] at pending; cases pending
  | _ => simp_all

end Closed

namespace TunnelCourse

theorem start (p : Policy) (client upstream : Connection) (dest : Authority) :
    TunnelCourse p (ofTunnel client upstream dest) [] (ofTunnel client upstream dest) [] :=
  .copies rfl (.start p ⟨client, upstream⟩)

theorem step (course : TunnelCourse p origin actions s j) (path : Ran p origin actions s j)
    (step : Step p s a moved) :
    TunnelCourse p origin (actions ++ [a]) moved.1 (j ++ moved.2) := by
  cases course with
  | copies phase copying =>
    rename_i t upstream dest
    obtain ⟨client, _⟩ := s
    cases phase
    have stops (d : Direction) := path.stops_snoc d a
    have still (quiet : ∀ d, stop? p ⟨client, .joined upstream dest (.tunneling t)⟩ d a = none)
        (d : Direction) : origin.stops p d (actions ++ [a]) = origin.stops p d actions := by
      rw [stops, quiet, Option.toList_none, List.append_nil]
    cases step with
    | farClient =>
      refine .copies rfl ?_
      simp only [still fun _ => rfl]
      exact copying.far .client client _
    | farUpstream held =>
      cases held
      refine .copies rfl ?_
      simp only [still fun _ => rfl]
      exact copying.far .upstream upstream _
    | tunnel phase moved =>
      cases phase
      refine .copies rfl ?_
      simp only [stops]
      exact copying.step (Tunnel.act_sound moved)
    | conclude phase done =>
      cases phase
      have closed : ∀ who, (Ends.get ⟨client.drop, upstream.drop⟩ who).dropped = true := by
        intro who
        cases who <;> rfl
      have dried (who : End) := Tunneled.dry_drop ⟨client, upstream⟩ who
      refine .returned path rfl copying done ⟨rfl, rfl, closed⟩ dried ?_ ?_
      · exact .cons (o := .log _) rfl (finish_quiet _ _ _)
      · exact (finish_parting _ _ _).recorded
    | writeFails pending => cases pending
    | writes pending => cases pending
    | replyUnheld phase => cases phase
    | replyFails phase => cases phase
    | replyTaken phase => cases phase
    | established phase => cases phase
    | requestSent phase => cases phase
    | replySent phase => cases phase
    | _ => contradiction
  | returned before middle copying done closed dry quiet uncounted =>
    obtain ⟨silent, who, event, rfl, after⟩ := closed.step step
    rw [silent, List.append_nil, List.append_assoc, List.cons_append]
    refine .returned before middle copying done after ?_ quiet uncounted
    intro x wet
    exact Tunneled.dry_far _ who event x (dry x wet)

theorem of_ran {client upstream : Connection} {dest : Authority}
    (ran : Ran p (ofTunnel client upstream dest) actions s j) :
    TunnelCourse p (ofTunnel client upstream dest) actions s j := by
  induction ran with
  | start => exact .start p client upstream dest
  | step path step ih => exact ih.step path step

end TunnelCourse

-- What one direction of a tunnel has counted at some moment, against what it has delivered.
structure Accounted (p : Policy) (origin : Session) (actions : List Action) (s : Session)
    (j : Journal) (d : Direction) : Prop where
  counted : j.recorded d ≤ (j.received d.sink).length
  missed : (j.received d.sink).length ≤ j.recorded d + p.limits.tunnel
  exact : j.recorded d = (j.received d.sink).length ∨
    (∃ upstream dest t total left, s.phase = .joined upstream dest (.tunneling t) ∧
      t.loop d = .writing total left) ∨
    ∃ why ∈ origin.stops p d actions, why.interrupts = true

theorem Accounted.of_short {why : Stop}
    (short : Short p.limits.tunnel (j.recorded d) (j.received d.sink).length why)
    (stopped : why ∈ origin.stops p d actions) : Accounted p origin actions s j d := by
  refine ⟨short.counted, short.missed, ?_⟩
  cases cut : why.interrupts with
  | false => exact .inl (short.exact cut)
  | true => exact .inr (.inr ⟨why, stopped, cut⟩)

theorem Copying.short {whys : Direction → List Stop} {t : Tunnel} {ends : Ends}
    (copying : Copying p whys j t ends) {d : Direction} (done : (t.loop d).isDone = true) :
    ∃ why ∈ whys d, Short p.limits.tunnel (j.recorded d) (j.received d.sink).length why := by
  have account := copying.account d
  cases loop : t.loop d with
  | finished result =>
    rw [loop] at account
    obtain ⟨why, only, _, short⟩ := account
    exact ⟨why, only ▸ List.mem_singleton.2 rfl, short⟩
  | stopped =>
    rw [loop] at account
    obtain ⟨writing, only, short⟩ := account
    exact ⟨.cutOff writing, only ▸ List.mem_singleton.2 rfl, short⟩
  | reading => rw [loop] at done; cases done
  | writing total left => rw [loop] at done; cases done
  | closing result => rw [loop] at done; cases done

theorem Copying.accounted {t : Tunnel} {ends : Ends}
    (copying : Copying p (fun d => origin.stops p d actions) j t ends)
    (phase : s.phase = .joined upstream dest (.tunneling t)) (d : Direction) :
    Accounted p origin actions s j d := by
  have account := copying.account d
  cases loop : t.loop d with
  | reading =>
    rw [loop] at account
    obtain ⟨_, same⟩ := account
    exact ⟨Nat.le_of_eq same, by omega, .inl same⟩
  | writing total left =>
    rw [loop] at account
    obtain ⟨_, fits, part, same⟩ := account
    exact ⟨by omega, by omega, .inr (.inl ⟨upstream, dest, t, total, left, phase, loop⟩)⟩
  | closing result =>
    rw [loop] at account
    obtain ⟨why, only, _, short⟩ := account
    exact .of_short short (only ▸ List.mem_singleton.2 rfl)
  | finished result =>
    obtain ⟨why, stopped, short⟩ := copying.short (d := d) (by rw [loop]; rfl)
    exact .of_short short stopped
  | stopped =>
    obtain ⟨why, stopped, short⟩ := copying.short (d := d) (by rw [loop]; rfl)
    exact .of_short short stopped

theorem Closed.ran {ends : Ends} (closed : Closed s summary ends) (ran : Ran p s actions t j) :
    j = [] ∧ ∃ later, Closed t summary later := by
  induction ran with
  | start => exact ⟨rfl, ends, closed⟩
  | step path step ih =>
    obtain ⟨silent, later, still⟩ := ih
    obtain ⟨quiet, _, _, _, after⟩ := still.step step
    exact ⟨by rw [silent, quiet]; rfl, _, after⟩

namespace TunnelCourse

theorem accounted (course : TunnelCourse p origin actions s j) (d : Direction) :
    Accounted p origin actions s j d := by
  cases course with
  | copies phase copying => exact copying.accounted phase d
  | returned path phase copying done closed dry quiet uncounted =>
    rename_i before middle opening upstream dest t summary ends rest later
    -- Both loops are done by now, and what is left behind after them counts and delivers nothing.
    obtain ⟨finished, other, _⟩ := Tunnel.summary?_done copying.noted done
    have quit : (t.loop d).isDone = true := by
      rcases Tunnel.eq_or_other d summary.closedBy with rfl | rfl
      · rw [finished]
        rfl
      · exact other
    obtain ⟨why, stopped, short⟩ := copying.short quit
    have kept : why ∈ origin.stops p d (before ++ .conclude :: later) := by
      rw [stops_append (run_exact.2 path)]
      exact List.mem_append_left _ stopped
    refine .of_short ?_ kept
    rw [Journal.recorded_append, uncounted, Journal.received_append, quiet.received,
      List.append_nil]
    exact short

theorem running (course : TunnelCourse p origin actions s j)
    (phase : s.phase = .joined upstream dest (.tunneling t)) : t.counts = j.counted := by
  cases course with
  | copies here copying =>
    cases here.symm.trans phase
    exact copying.counts
  | returned path here copying done closed dry quiet uncounted =>
    cases closed.phase.symm.trans phase

theorem reported (course : TunnelCourse p origin actions s j)
    (returned : s.result? = some (.ok (.tunneled summary))) :
    summary.counts = j.counted ∧ ∃ ends, Closed s summary ends := by
  cases course with
  | copies phase copying =>
    rw [result?, phase] at returned
    cases returned
  | returned path phase copying done closed dry quiet uncounted =>
    rw [result?, closed.phase] at returned
    cases returned
    obtain ⟨_, _, counts⟩ := Tunnel.summary?_done copying.noted done
    refine ⟨?_, _, closed⟩
    rw [counts, copying.counts, Journal.counted_append, Journal.counted_quiet uncounted,
      Counts.plus_zero]

end TunnelCourse

end Session

end GatedProxy
