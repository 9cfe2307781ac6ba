import GatedProxy.Proofs.Session.Answer
import GatedProxy.Proofs.Session.Dialed

namespace GatedProxy

theorem Row.Applies.room {p : Policy} {first : Option Connection}
    (applies : Row.Applies p first (.judged (.dial dest (.relay raw)))) :
    raw.length ≤ p.limits.request := by
  cases applies with
  | judged space fits sound full calls =>
    cases calls
    exact List.length_take_le ..

namespace Journal

theorem Unwritten.received {j : Journal} (silent : j.Unwritten) (who : End) :
    j.received who = [] := by
  apply List.flatMap_eq_nil_iff.2
  intro o member
  cases o with
  | wrote other data => exact absurd member (silent other data)
  | _ => rfl

theorem firstRead?_taken {j : Journal} (first : j.firstRead? = some raw) :
    raw <+: j.taken .client := by
  obtain ⟨before, o, later, rfl, this, none⟩ := List.findSome?_eq_some_iff.1 first
  have untaken : taken .client before = [] := by
    apply List.flatMap_eq_nil_iff.2
    intro x member
    have unread := none x member
    cases x with
    | read who data => cases who <;> simp_all
    | _ => rfl
  cases o with
  | read who data =>
    cases who with
    | client =>
      cases this
      have split : taken .client (before ++ ([.read .client raw] ++ later)) =
          raw ++ taken .client later := by
        rw [taken_append, taken_append, taken_read, untaken, List.nil_append]
      exact split ▸ List.prefix_append raw _
    | upstream => cases this
  | _ => cases this

end Journal

def Phase.isRelay : Phase → Bool
  | .joined _ _ exchange => !exchange.isTunnel
  | .over (some _) _ => true
  | .over none _ | .awaitingRequest | .answering .. | .dialing .. => false

namespace Session

def ReadFailed (p : Policy) (actions : List Action) (e : SystemError) : Prop :=
  ∃ before later middle opening upstream dest, actions = before ++ .read :: later ∧
    Session.run p {} before = some (middle, opening) ∧
    middle.phase = .joined upstream dest .awaitingReply ∧ p.limits.reply ≤ Limits.largest ∧
    upstream.recvFault = some e

-- The one read of an upstream. It comes after all of the request and before any byte to the client,
-- and takes what the upstream has sent by then, as far as there is room for it.
inductive Replied (p : Policy) (raw reply : Bytes) : List Action → Journal → Prop where
  | took (path : Session.run p {} before = some (middle, opening))
      (held : middle.upstream? = some c) (asked : opening.received .upstream = raw)
      (nothing : opening.received .client = []) (unread : opening.reads .upstream = [])
      (whole : reply = (opening.sent .upstream).take p.limits.reply)
      (ends : opening.sent .upstream = [] → c.finished = true)
      (once : Journal.reads .upstream rest = []) :
      Replied p raw reply (before ++ .read :: later) (opening ++ .read .upstream reply :: rest)

inductive RelayEnd (p : Policy) (raw : Bytes) (actions : List Action) (j : Journal) :
    Option SessionResult → Prop where
  | relayed (asked : j.received .upstream = raw) (replied : Replied p raw reply actions j)
      (all : j.received .client = reply) :
      RelayEnd p raw actions j (some (.ok (.relayed reply.length)))
  | cut (asked : j.received .upstream = raw) (replied : Replied p raw reply actions j)
      (part : j.received .client <+: reply) (short : j.received .client ≠ reply)
      (failed : WriteFailed p actions .client e) : RelayEnd p raw actions j (some (.error (.io e)))
  | unasked (part : j.received .upstream <+: raw) (short : j.received .upstream ≠ raw)
      (unread : j.reads .upstream = []) (nothing : j.received .client = [])
      (failed : WriteFailed p actions .upstream e) : RelayEnd p raw actions j (some (.error (.io e)))
  | unanswered (asked : j.received .upstream = raw) (unread : j.reads .upstream = [])
      (nothing : j.received .client = []) (failed : ReadFailed p actions e) :
      RelayEnd p raw actions j (some (.error (.io e)))
  | unheld (large : Limits.largest < p.limits.reply) (asked : j.received .upstream = raw)
      (unread : j.reads .upstream = []) (nothing : j.received .client = []) :
      RelayEnd p raw actions j none

inductive Relaying (p : Policy) (raw : Bytes) (actions : List Action) (j : Journal) :
    Phase → Prop where
  | asks (part : j.received .upstream ++ left = raw) (unread : j.reads .upstream = [])
      (nothing : j.received .client = []) :
      Relaying p raw actions j (.joined upstream dest (.sendingRequest left))
  | awaits (asked : j.received .upstream = raw) (unread : j.reads .upstream = [])
      (nothing : j.received .client = []) :
      Relaying p raw actions j (.joined upstream dest .awaitingReply)
  | replies (asked : j.received .upstream = raw) (replied : Replied p raw reply actions j)
      (part : j.received .client ++ left = reply) :
      Relaying p raw actions j (.joined upstream dest (.sendingReply reply.length left))
  | ended (ends : RelayEnd p raw actions j result) :
      Relaying p raw actions j (.over (some upstream) result)

variable {p : Policy} {s : Session} {j more : Journal} {actions : List Action}

theorem ReadFailed.snoc (failed : ReadFailed p actions e) (a : Action) :
    ReadFailed p (actions ++ [a]) e := by
  obtain ⟨before, later, middle, opening, upstream, dest, rfl, rest⟩ := failed
  exact ⟨before, later ++ [a], middle, opening, upstream, dest, by simp, rest⟩

theorem Replied.snoc (replied : Replied p raw reply actions j) (a : Action) :
    Replied p raw reply (actions ++ [a]) j := by
  cases replied with
  | took path held asked nothing fresh whole ends once =>
    rw [List.append_assoc]
    exact .took path held asked nothing fresh whole ends once

theorem Replied.extend (replied : Replied p raw reply actions j)
    (unread : more.reads .upstream = []) : Replied p raw reply actions (j ++ more) := by
  cases replied with
  | took path held asked nothing fresh whole ends once =>
    rw [List.append_assoc]
    exact .took path held asked nothing fresh whole ends (by simp [once, unread])

namespace RelayEnd

theorem snoc (ends : RelayEnd p raw actions j result) (a : Action) :
    RelayEnd p raw (actions ++ [a]) j result := by
  cases ends with
  | relayed asked replied all => exact .relayed asked (replied.snoc a) all
  | cut asked replied part short failed =>
    exact .cut asked (replied.snoc a) part short (failed.snoc a)
  | unasked part short unread nothing failed =>
    exact .unasked part short unread nothing (failed.snoc a)
  | unanswered asked unread nothing failed => exact .unanswered asked unread nothing (failed.snoc a)
  | unheld large asked unread nothing => exact .unheld large asked unread nothing

theorem extend (ends : RelayEnd p raw actions j result) (reads : more.reads .upstream = [])
    (received : ∀ who, more.received who = []) : RelayEnd p raw actions (j ++ more) result := by
  have same (who : End) : (j ++ more).received who = j.received who := by simp [received]
  have fresh : (j ++ more).reads .upstream = j.reads .upstream := by simp [reads]
  cases ends with
  | relayed asked replied all =>
    exact .relayed ((same _).trans asked) (replied.extend reads) ((same _).trans all)
  | cut asked replied part short failed =>
    exact .cut ((same _).trans asked) (replied.extend reads) (by rwa [same]) (by rwa [same]) failed
  | unasked part short unread nothing failed =>
    exact .unasked (by rwa [same]) (by rwa [same]) (fresh.trans unread) ((same _).trans nothing)
      failed
  | unanswered asked unread nothing failed =>
    exact .unanswered ((same _).trans asked) (fresh.trans unread) ((same _).trans nothing) failed
  | unheld large asked unread nothing =>
    exact .unheld large ((same _).trans asked) (fresh.trans unread) ((same _).trans nothing)

end RelayEnd

namespace Relaying

theorem isRelay (relaying : Relaying p raw actions j now) : now.isRelay = true := by
  cases relaying <;> rfl

theorem still (relaying : Relaying p raw actions j now) (a : Action)
    (reads : more.reads .upstream = []) (received : ∀ who, more.received who = []) :
    Relaying p raw (actions ++ [a]) (j ++ more) now := by
  have same (who : End) : (j ++ more).received who = j.received who := by simp [received]
  have fresh : (j ++ more).reads .upstream = j.reads .upstream := by simp [reads]
  cases relaying with
  | asks part unread nothing =>
    exact .asks (by rw [same, part]) (fresh.trans unread) ((same _).trans nothing)
  | awaits asked unread nothing =>
    exact .awaits ((same _).trans asked) (fresh.trans unread) ((same _).trans nothing)
  | replies asked replied part =>
    exact .replies ((same _).trans asked) ((replied.snoc a).extend reads) (by rw [same, part])
  | ended ends => exact .ended ((ends.snoc a).extend reads received)

theorem setUpstream (relaying : Relaying p raw actions j s.phase) (c : Connection) :
    Relaying p raw actions j (s.setUpstream c).phase := by
  unfold Session.setUpstream
  split
  · rename_i phase
    rw [phase] at relaying
    cases relaying with
    | asks part unread nothing => exact .asks part unread nothing
    | awaits asked unread nothing => exact .awaits asked unread nothing
    | replies asked replied part => exact .replies asked replied part
  · rename_i phase
    rw [phase] at relaying
    cases relaying with
    | ended ends => exact .ended ends
  all_goals exact relaying

theorem finishes (ends : RelayEnd p raw actions j result) (client upstream : Connection) :
    let moved := endWith client (some upstream) result
    Relaying p raw actions (j ++ moved.2) moved.1.phase := by
  have quiet := (endWith_parting client (some upstream) result).quiet
  exact .ended (ends.extend (quiet.reads _) quiet.received)

theorem wrote (relaying : Relaying p raw actions j s.phase)
    (pending : s.pending? = some (who, c, left)) (split : accepted ++ rest = left) (a : Action) :
    Relaying p raw (actions ++ [a]) (j ++ [.wrote who accepted]) (s.setPending rest).phase := by
  have fresh : Journal.reads .upstream (j ++ [.wrote who accepted]) = j.reads .upstream := by simp
  have toUpstream : Journal.received .client [.wrote .upstream accepted] = [] := rfl
  have toClient : Journal.received .upstream [.wrote .client accepted] = [] := rfl
  unfold pending? at pending
  split at pending <;> cases pending <;> rename_i phase <;> rw [phase] at relaying <;>
    simp only [setPending, phase]
  · cases relaying
  · cases relaying
  · cases relaying with
    | asks part unread nothing =>
      refine .asks ?_ (fresh.trans unread) (by rw [Journal.received_append, nothing]; rfl)
      rw [Journal.received_append, Journal.received_wrote, List.append_assoc, split, part]
  · cases relaying with
    | replies asked replied part =>
      refine .replies ?_ ((replied.snoc a).extend rfl) ?_
      · rw [Journal.received_append, asked, toClient, List.append_nil]
      · rw [Journal.received_append, Journal.received_wrote, List.append_assoc, split, part]

theorem writeFails (relaying : Relaying p raw actions j s.phase) (path : Ran p {} actions s j)
    (pending : s.pending? = some (who, c, left)) (more : left ≠ [])
    (wrote : c.write left size = some (.error e)) :
    let moved := finish s.client s.upstream? (.error (.io e))
    Relaying p raw (actions ++ [.write size]) (j ++ moved.2) moved.1.phase := by
  have failed : WriteFailed p (actions ++ [.write size]) who e :=
    ⟨actions, size, [], s, j, c, left, rfl, run_exact.2 path, pending, more, wrote⟩
  have part {given whole : Bytes} (same : given ++ left = whole) :
      given <+: whole ∧ given ≠ whole := by
    subst same
    exact ⟨List.prefix_append given left, by simpa using more⟩
  unfold pending? at pending
  split at pending <;> cases pending <;> rename_i phase <;> rw [phase] at relaying <;>
    simp only [upstream?, phase]
  · cases relaying
  · cases relaying
  · cases relaying with
    | asks whole unread nothing =>
      obtain ⟨part, short⟩ := part whole
      exact finishes (.unasked part short unread nothing failed) _ _
  · cases relaying with
    | replies asked replied whole =>
      obtain ⟨part, short⟩ := part whole
      exact finishes (.cut asked (replied.snoc _) part short failed) _ _

theorem takes (relaying : Relaying p raw actions j s.phase) (path : Ran p {} actions s j)
    (phase : s.phase = .joined upstream dest .awaitingReply)
    (took : upstream.read p.limits.reply = some (.ok data, later)) :
    Relaying p raw (actions ++ [.read]) (j ++ [.read .upstream data])
      (.joined later dest (.sendingReply data.length data)) := by
  obtain ⟨whole, _, ends⟩ := Connection.read_ok took
  rw [phase] at relaying
  cases relaying with
  | awaits asked unread nothing =>
    have sent : j.sent .upstream = upstream.unread := by
      have conserved := Ran.conserves path .upstream
      rw [Journal.taken_reads, unread] at conserved
      simpa [Session.unread, waiting, upstream?, phase] using conserved.symm
    have replied : Replied p raw data (actions ++ [.read]) (j ++ [.read .upstream data]) := by
      refine .took (run_exact.2 path) (by rw [upstream?, phase]) asked nothing unread ?_ ?_ rfl
      · rw [sent, whole]
      · rw [sent]
        exact ends
    refine .replies ?_ replied ?_
    · rw [Journal.received_append, asked]
      exact List.append_nil raw
    · rw [Journal.received_append, nothing]
      rfl

theorem step (relaying : Relaying p raw actions j s.phase) (path : Ran p {} actions s j)
    (step : Step p s a moved) : Relaying p raw (actions ++ [a]) (j ++ moved.2) moved.1.phase := by
  have relay := relaying.isRelay
  cases step with
  | farClient => exact relaying.still _ (Journal.heard_reads _ _ _ _) (heard_received _ _ _)
  | farUpstream held =>
    exact (relaying.setUpstream _).still _ (Journal.heard_reads _ _ _ _) (heard_received _ _ _)
  | replyUnheld phase large =>
    rw [phase] at relaying
    cases relaying with
    | awaits asked unread nothing => exact finishes (.unheld large asked unread nothing) _ _
  | replyFails phase fits took =>
    rename_i upstream dest later e
    have fault := Connection.read_fault took
    have failed : ReadFailed p (actions ++ [.read]) e :=
      ⟨actions, [], s, j, upstream, dest, rfl, run_exact.2 path, phase, Nat.le_of_not_lt fits, fault⟩
    rw [phase] at relaying
    cases relaying with
    | awaits asked unread nothing => exact finishes (.unanswered asked unread nothing failed) _ _
  | replyTaken phase fits took => exact relaying.takes path phase took
  | writeFails pending more wrote => exact relaying.writeFails path pending more wrote
  | writes pending more wrote => exact relaying.wrote pending (Connection.write_ok wrote) _
  | requestSent phase =>
    rw [phase] at relaying
    cases relaying with
    | asks part unread nothing =>
      rw [List.append_nil] at part
      exact Relaying.still (.awaits part unread nothing) _ rfl fun _ => rfl
  | replySent phase =>
    rename_i upstream dest _ _
    rw [phase] at relaying
    cases relaying with
    | replies asked replied part =>
      rename_i reply
      rw [List.append_nil] at part
      have quiet := relayed_quiet s.client upstream dest reply.length
      have ends : RelayEnd p raw actions j (some (.ok (.relayed _))) := .relayed asked replied part
      exact .ended ((ends.snoc _).extend (quiet.reads _) quiet.received)
  | _ => simp_all [Phase.isRelay, Exchange.isTunnel]

end Relaying

theorem dialTo_opens {client : Connection} {dest : Authority} {errand : Errand}
    {progress : Dial.Progress} (opened : .opened ∈ (dialTo client dest errand progress).2) :
    ∃ greeting, progress = .opened greeting := by
  cases progress with
  | waiting question => cases question <;> simp [dialTo] at opened
  | failed e => cases finish_quiet client none (.error (.dial dest e)) _ opened
  | opened greeting => exact ⟨greeting, rfl⟩

theorem start_waits {host : Text} (greeting : Bytes) : Dial.start host ≠ .opened greeting := by
  unfold Dial.start
  split
  · nofun
  · split <;> nofun

theorem Step.opens (step : Step p s a moved) (opened : .opened ∈ moved.2) :
    ∃ dest errand question greeting, s.phase = .dialing dest errand question ∧
      moved = dialTo s.client dest errand (.opened greeting) := by
  have closed {k : Journal} (still : k.dialings = []) : .opened ∉ k :=
    Journal.unopened (by simp [still])
  have quiet {k : Journal} (quiet : k.Quiet) : .opened ∉ k := closed quiet.dialings
  cases step with
  | farClient => exact absurd opened (closed (heard_dialings _ _ _))
  | farUpstream held => exact absurd opened (closed (heard_dialings _ _ _))
  | requestUnheld => exact absurd opened (quiet (breakDown_parting _ _).quiet)
  | requestFails => exact absurd opened (quiet (finish_quiet _ _ _))
  | requestEnds =>
    rcases List.mem_append.1 opened with read | ends
    · simp at read
    · exact absurd ends (quiet (finish_quiet _ _ _))
  | requestMalformed =>
    rcases List.mem_append.1 opened with read | ends
    · simp at read
    · exact absurd ends (quiet (finish_quiet _ _ _))
  | requestAnswered => simp at opened
  | requestDials =>
    rcases List.mem_append.1 opened with read | dials
    · simp at read
    · obtain ⟨greeting, same⟩ := dialTo_opens dials
      exact absurd same (start_waits greeting)
  | resolved phase =>
    obtain ⟨greeting, same⟩ := dialTo_opens opened
    exact ⟨_, _, _, greeting, phase, by rw [same]⟩
  | dialed phase =>
    obtain ⟨greeting, same⟩ := dialTo_opens opened
    exact ⟨_, _, _, greeting, phase, by rw [same]⟩
  | replyUnheld => exact absurd opened (quiet (breakDown_parting _ _).quiet)
  | replyFails => exact absurd opened (quiet (finish_quiet _ _ _))
  | replyTaken => simp at opened
  | writeFails => exact absurd opened (quiet (finish_quiet _ _ _))
  | writes => simp at opened
  | answered =>
    have shut := shutQuietly_quiet .client s.client
    exact absurd opened (quiet (shut.append (finish_quiet _ _ _)))
  | established => simp at opened
  | requestSent => cases opened
  | replySent => exact absurd opened (quiet (relayed_quiet _ _ _ _))
  | tunnel phase moved => exact absurd opened (closed (Tunnel.act_sound moved).dialings)
  | conclude => exact absurd opened (quiet (.cons rfl (finish_quiet _ _ _)))

theorem RelayEnd.handed (ends : RelayEnd p raw actions j result) : j.received .upstream <+: raw ∧
    ∀ size, result = some (.ok (.relayed size)) → j.received .upstream = raw := by
  have all (asked : j.received .upstream = raw) : j.received .upstream <+: raw ∧
      ∀ size, result = some (.ok (.relayed size)) → j.received .upstream = raw :=
    ⟨asked ▸ List.prefix_rfl, fun _ _ => asked⟩
  cases ends with
  | relayed asked => exact all asked
  | cut asked => exact all asked
  | unasked part => exact ⟨part, by simp⟩
  | unanswered asked => exact all asked
  | unheld large asked => exact all asked

theorem Relaying.handed (relaying : Relaying p raw actions j s.phase) :
    j.received .upstream <+: raw ∧
      ∀ size, s.result? = some (.ok (.relayed size)) → j.received .upstream = raw := by
  unfold result?
  generalize s.phase = now at relaying
  cases relaying with
  | asks part => exact ⟨⟨_, part⟩, by simp⟩
  | awaits asked => exact ⟨asked ▸ List.prefix_rfl, by simp⟩
  | replies asked => exact ⟨asked ▸ List.prefix_rfl, by simp⟩
  | ended ends => exact ends.handed

theorem Relaying.opens (path : Ran p {} actions s j) (step : Step p s a moved)
    (opened : .opened ∈ moved.2) (first : (j ++ moved.2).firstRead? = some raw)
    (judged : (p.judge raw).1 = .dial dest (.relay raw)) :
    raw.length ≤ p.limits.request ∧
      Relaying p raw (actions ++ [a]) (j ++ moved.2) moved.1.phase := by
  obtain ⟨dest', errand, question, greeting, phase, rfl⟩ := step.opens opened
  obtain ⟨again, read, also, _, silent⟩ := (Ran.reaching path).asks phase
  obtain ⟨row, _, nothing, fresh⟩ := (Ran.owed path).asks phase
  rw [Journal.firstRead?_append, read] at first
  cases first
  cases judged.symm.trans also
  refine ⟨row.room, .asks ?_ ?_ ?_⟩
  · rw [Journal.received_append, silent.received]
    rfl
  · rw [Journal.reads_append, fresh]
    rfl
  · rw [Journal.received_append, nothing]
    rfl

theorem Ran.relaying (ran : Ran p {} actions s j) (first : j.firstRead? = some raw)
    (judged : (p.judge raw).1 = .dial dest (.relay raw)) (connected : .opened ∈ j) :
    raw.length ≤ p.limits.request ∧ Relaying p raw actions j s.phase := by
  induction ran with
  | start => cases connected
  | step path step ih =>
    rcases List.mem_append.1 connected with earlier | now
    · -- whoever has a connection has been read, and is not read first once more
      obtain ⟨before, later, rfl⟩ := List.append_of_mem earlier
      obtain ⟨again, _, _, read, _⟩ := (Course.of_ran path).gated before _ later rfl rfl
      have whole : Journal.firstRead? (before ++ .opened :: later) = some again := by simp [read]
      rw [Journal.firstRead?_append, whole] at first
      cases first
      obtain ⟨bound, relaying⟩ := ih whole earlier
      exact ⟨bound, relaying.step path step⟩
    · exact Relaying.opens path step now first judged

theorem Ran.relays (ran : Ran p {} actions s j) (first : j.firstRead? = some raw)
    (judged : (p.judge raw).1 = .dial dest (.relay raw)) :
    j.received .upstream <+: raw ∧
      ∀ size, s.result? = some (.ok (.relayed size)) → j.received .upstream = raw := by
  by_cases connected : .opened ∈ j
  · obtain ⟨_, relaying⟩ := Ran.relaying ran first judged connected
    exact relaying.handed
  · obtain ⟨progress, _, dialed⟩ := Ran.dialed ran first judged
    obtain ⟨silent, none⟩ := dialed.silent connected
    rw [silent.received]
    exact ⟨List.nil_prefix, fun size returned => absurd returned (none _)⟩

end Session

end GatedProxy
