import GatedProxy.Proofs.Session.Bytes
import GatedProxy.Proofs.Session.Gate

namespace GatedProxy

theorem Policy.judge_logs {p : Policy} (judged : p.judge raw = (judgement, events))
    (dest : Authority) : .established dest ∉ events := by
  have reported : (p.judge raw).2 = events := congrArg Prod.snd judged
  rw [← reported]
  unfold judge
  split
  · exact List.not_mem_nil
  · unfold judgeRequest
    split
    · exact List.not_mem_nil
    · exact List.not_mem_nil
    · dsimp only
      split
      · simp
      · split <;> simp

theorem Tunnel.Step.logs {t : Tunnel} {ends : Ends}
    (step : Tunnel.Step room t ends a (t', ends', journal)) (dest : Authority) :
    .established dest ∉ journal.events := by
  cases step with
  | shutFails loop shut => simp [Journal.events]
  | shuts loop shut => split <;> exact List.not_mem_nil
  | _ => exact List.not_mem_nil

namespace Session

theorem heard_events (who : End) (c : Connection) (event : FarEvent) :
    (heard who c event).events = [] := by
  rcases heard_cases who c event with none | ⟨data, one⟩
  · rw [none]
    rfl
  · rw [one]
    rfl

theorem dialTo_events (client : Connection) (dest : Authority) (errand : Errand)
    (progress : Dial.Progress) : (dialTo client dest errand progress).2.events = [] := by
  cases progress with
  | waiting question => cases question <;> rfl
  | failed e => exact (finish_parting client none _).events
  | opened bytes => rfl

theorem relayed_events (client upstream : Connection) (dest : Authority) (size : Nat) :
    (relayed client upstream dest size).2.events = [.relayed dest size] := by
  simp [relayed, after, (shutQuietly_parting _ _).events, (finish_parting _ _ _).events]

theorem Step.logs_established {p : Policy} {s : Session} (step : Step p s a moved)
    (logged : .established dest ∈ moved.2.events) :
    ∃ upstream, s.phase = .joined upstream dest (.establishing []) ∧
      moved = ({ s with phase := .joined upstream dest (.tunneling {}) },
        [.log (.established dest)]) := by
  cases step with
  | farClient => simp [heard_events] at logged
  | farUpstream held => simp [heard_events] at logged
  | requestUnheld => simp [(breakDown_parting _ _).events] at logged
  | requestFails => simp [(finish_parting _ _ _).events] at logged
  | requestEnds => simp [after, (finish_parting _ _ _).events] at logged
  | requestMalformed phase fits took full judged =>
    simp only [after, List.cons_append, Journal.events_read, Journal.events_append,
      Journal.events_logs, (finish_parting _ _ _).events, List.append_nil] at logged
    exact absurd logged (Policy.judge_logs judged dest)
  | requestAnswered phase fits took full judged =>
    simp only [Journal.events_read, Journal.events_logs] at logged
    exact absurd logged (Policy.judge_logs judged dest)
  | requestDials phase fits took full judged =>
    simp only [after, List.cons_append, Journal.events_read, Journal.events_append,
      Journal.events_logs, dialTo_events, List.append_nil] at logged
    exact absurd logged (Policy.judge_logs judged dest)
  | resolved => simp [dialTo_events] at logged
  | dialed => simp [dialTo_events] at logged
  | replyUnheld => simp [(breakDown_parting _ _).events] at logged
  | replyFails => simp [(finish_parting _ _ _).events] at logged
  | replyTaken => cases logged
  | writeFails => simp [(finish_parting _ _ _).events] at logged
  | writes => cases logged
  | answered => simp [after, (shutQuietly_parting _ _).events, (finish_parting _ _ _).events] at logged
  | established phase =>
    cases List.mem_singleton.1 logged
    exact ⟨_, phase, rfl⟩
  | requestSent => cases logged
  | replySent => simp [relayed_events] at logged
  | tunnel phase moved => exact absurd logged ((Tunnel.act_sound moved).logs dest)
  | conclude => simp [after, (finish_parting _ _ _).events] at logged

-- A run with a tunnel comes in two: up to the moment when it is established, and from there on.
theorem Ran.logs_established {p : Policy} {s : Session} {j : Journal}
    (ran : Ran p {} actions s j) (logged : .established dest ∈ j.events) :
    ∃ before middle opening upstream later rest, Ran p {} before middle opening ∧
      middle.phase = .joined upstream dest (.establishing []) ∧
      Ran p { middle with phase := .joined upstream dest (.tunneling {}) } later s rest ∧
      j = opening ++ .log (.established dest) :: rest := by
  induction ran with
  | start => cases logged
  | step path step ih =>
    rw [Journal.events_append] at logged
    rcases List.mem_append.1 logged with earlier | now
    · obtain ⟨before, middle, opening, upstream, later, rest, first, phase, second, rfl⟩ :=
        ih earlier
      exact ⟨before, middle, opening, upstream, _, _, first, phase, .step second step, by simp⟩
    · obtain ⟨upstream, phase, rfl⟩ := step.logs_established now
      exact ⟨_, _, _, upstream, [], [], path, phase, .start, rfl⟩

structure Touched (j : Journal) (raw told : Bytes) : Prop where
  taken : j.taken .client = raw
  given : j.received .client = told
  unread : j.taken .upstream = []
  unsent : j.received .upstream = []

-- One read of the client, and then the response.
def Opening (j : Journal) : Phase → Prop
  | .awaitingRequest => j.firstRead? = none ∧ Touched j [] []
  | .dialing _ _ _ => ∃ raw, j.firstRead? = some raw ∧ Touched j raw []
  | .joined _ _ (.establishing left) =>
    ∃ raw told, j.firstRead? = some raw ∧ Touched j raw told ∧
      told ++ left = Response.bytes Response.established
  | _ => True

theorem Touched.still {j more : Journal} (touched : Touched j raw told)
    (reads : ∀ who, more.taken who = []) (writes : ∀ who, more.received who = []) :
    Touched (j ++ more) raw told := by
  obtain ⟨taken, given, unread, unsent⟩ := touched
  constructor
  · rw [Journal.taken_append, reads, taken, List.append_nil]
  · rw [Journal.received_append, writes, given, List.append_nil]
  · rw [Journal.taken_append, reads, unread, List.append_nil]
  · rw [Journal.received_append, writes, unsent, List.append_nil]

theorem Touched.first {j : Journal} (touched : Touched j [] told) (raw : Bytes)
    (events : List LogEvent) : Touched (j ++ .read .client raw :: events.map .log) raw told := by
  obtain ⟨taken, given, unread, unsent⟩ := touched
  have unheard : Journal.taken .upstream (.read .client raw :: events.map .log) = [] :=
    (Journal.Quiet.logs events).taken .upstream
  constructor
  · rw [Journal.taken_append, Journal.taken_first, taken, List.nil_append]
  · rw [Journal.received_append, Journal.received_first, given, List.append_nil]
  · rw [Journal.taken_append, unheard, unread, List.append_nil]
  · rw [Journal.received_append, Journal.received_first, unsent, List.append_nil]

theorem Touched.wrote {j : Journal} (touched : Touched j raw told) (accepted : Bytes) :
    Touched (j ++ [.wrote .client accepted]) raw (told ++ accepted) := by
  obtain ⟨taken, given, unread, unsent⟩ := touched
  constructor
  · rw [Journal.taken_append, taken]
    exact List.append_nil raw
  · rw [Journal.received_append, Journal.received_wrote, given]
  · rw [Journal.taken_append, unread]
    rfl
  · rw [Journal.received_append, unsent]
    rfl

theorem Opening.far {j : Journal} {now : Phase} (opening : Opening j now) (who : End)
    (c : Connection) (event : FarEvent) : Opening (j ++ heard who c event) now := by
  have read : (j ++ heard who c event).firstRead? = j.firstRead? := by
    rw [Journal.firstRead?_append, heard_firstRead?, Option.or_none]
  have still {raw told : Bytes} (touched : Touched j raw told) :=
    touched.still (heard_taken who c event) (heard_received who c event)
  unfold Opening at opening ⊢
  rw [read]
  split at opening
  · exact ⟨opening.1, still opening.2⟩
  · obtain ⟨raw, first, touched⟩ := opening
    exact ⟨raw, first, still touched⟩
  · obtain ⟨raw, told, first, touched, rest⟩ := opening
    exact ⟨raw, told, first, still touched, rest⟩
  · trivial

namespace Opening

variable {p : Policy} {s : Session} {j : Journal}

theorem setUpstream (opening : Opening j s.phase) (c : Connection) :
    Opening j (s.setUpstream c).phase := by
  unfold Session.setUpstream
  split
  · rename_i exchange phase
    rw [phase] at opening
    cases exchange <;> exact opening
  · trivial
  all_goals exact opening

theorem finished (j : Journal) (client : Connection) (upstream : Option Connection)
    (result : Option SessionResult) : Opening j (endWith client upstream result).1.phase := by
  cases upstream <;> trivial

theorem dialTo (first : j.firstRead? = some raw) (touched : Touched j raw [])
    (client : Connection) (dest : Authority) (errand : Errand) (progress : Dial.Progress) :
    Opening (j ++ (dialTo client dest errand progress).2)
      (dialTo client dest errand progress).1.phase := by
  have read (more : Journal) : (j ++ more).firstRead? = some raw := by simp [first]
  cases progress with
  | waiting question =>
    refine ⟨raw, read _, ?_⟩
    cases question <;> exact touched.still (fun _ => rfl) (fun _ => rfl)
  | failed e => trivial
  | opened bytes =>
    cases errand with
    | tunnel => exact ⟨raw, [], read _, touched.still (fun _ => rfl) (fun _ => rfl), rfl⟩
    | relay request => trivial

theorem wrote (opening : Opening j s.phase) (pending : s.pending? = some (who, c, left))
    (split : accepted ++ rest = left) :
    Opening (j ++ [.wrote who accepted]) (s.setPending rest).phase := by
  unfold pending? at pending
  split at pending <;> cases pending <;> rename_i phase <;> simp only [setPending, phase]
  · trivial
  · rw [phase] at opening
    obtain ⟨raw, told, first, touched, whole⟩ := opening
    refine ⟨raw, told ++ accepted, by simp [first], touched.wrote accepted, ?_⟩
    rw [List.append_assoc, split, whole]
  · trivial
  · trivial

theorem step (opening : Opening j s.phase) (step : Step p s a moved) :
    Opening (j ++ moved.2) moved.1.phase := by
  cases step with
  | farClient => exact opening.far .client s.client _
  | farUpstream held => exact (opening.setUpstream _).far .upstream _ _
  | requestDials phase fits took full judged =>
    rename_i client raw events dest errand
    rw [phase] at opening
    obtain ⟨unread, touched⟩ := opening
    have first := Journal.firstRead?_read unread raw (events.map .log)
    have dialed := Opening.dialTo first (touched.first raw events) client dest errand
      (Dial.start dest.host)
    rw [List.append_assoc] at dialed
    exact dialed
  | resolved phase =>
    rw [phase] at opening
    obtain ⟨raw, first, touched⟩ := opening
    exact .dialTo first touched _ _ _ _
  | dialed phase =>
    rw [phase] at opening
    obtain ⟨raw, first, touched⟩ := opening
    exact .dialTo first touched _ _ _ _
  | writes pending more wrote => exact opening.wrote pending (Connection.write_ok wrote)
  | writeFails => exact .finished _ _ _ _
  | _ => trivial

end Opening

theorem Ran.opening {p : Policy} {s : Session} {j : Journal} (ran : Ran p {} actions s j) :
    Opening j s.phase := by
  induction ran with
  | start => exact ⟨rfl, rfl, rfl, rfl, rfl⟩
  | step path step ih => exact ih.step step

end Session

end GatedProxy
