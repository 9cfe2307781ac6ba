import GatedProxy.Proofs.Server.Sessions
import GatedProxy.Proofs.Session.TunnelRun

namespace GatedProxy

namespace ServerJournal

def elsewhere (which : Nat) (j : ServerJournal) : Journal :=
  j.filterMap fun
    | .session i o => if i = which then none else some o
    | .log _ => none

theorem elsewhere_append (which : Nat) (j k : ServerJournal) :
    (j ++ k).elsewhere which = j.elsewhere which ++ k.elsewhere which := List.filterMap_append

theorem elsewhere_logs (which : Nat) (events : List LogEvent) :
    ServerJournal.elsewhere which (events.map .log) = [] := by
  simp [elsewhere]

theorem elsewhere_session (which : Nat) (j : Journal) :
    ServerJournal.elsewhere which (j.map (.session which)) = [] := by
  simp [elsewhere]

theorem elsewhere_other {which other : Nat} (differ : other ≠ which) (j : Journal) :
    ServerJournal.elsewhere which (j.map (.session other)) = j := by
  rw [elsewhere, List.filterMap_map]
  have kept : (fun o : Occurrence => if other = which then none else some o) = some :=
    funext fun _ => if_neg differ
  exact (congrArg (List.filterMap · j) kept).trans List.filterMap_some

def grown (which : Nat) (j : ServerJournal) : Counts :=
  (j.elsewhere which).counted.plus (j.ofSession which).counted

theorem grown_append (which : Nat) (j k : ServerJournal) :
    (j ++ k).grown which = (j.grown which).plus (k.grown which) := by
  simp only [grown, elsewhere_append, ofSession_append, Journal.counted_append, Counts.plus_assoc]
  rw [← Counts.plus_assoc (j.ofSession which).counted,
    Counts.plus_comm (j.ofSession which).counted (k.elsewhere which).counted, Counts.plus_assoc]

end ServerJournal

namespace Server

variable {p : Policy} {origin s t : Server} {actions : List Action} {j : ServerJournal}
  {which : Nat} {slot : Slot}

theorem session_of_set {slots : List Slot} {i : Nat} {other changed : Slot}
    (held : slots[which]? = some slot) (there : slots[i]? = some other)
    (same : changed.session = other.session) :
    ∃ later, (slots.set i changed)[which]? = some later ∧ slot.session = later.session := by
  obtain ⟨inside, _⟩ := List.getElem?_eq_some_iff.1 there
  by_cases equal : i = which
  · subst equal
    cases held.symm.trans there
    exact ⟨changed, List.getElem?_set_self inside, same.symm⟩
  · exact ⟨slot, (List.getElem?_set_ne equal).trans held, rfl⟩

theorem Step.projects (step : Step p s a moved) (held : s.slots[which]? = some slot) :
    ∃ later, moved.1.slots[which]? = some later ∧
      Session.Ran p slot.session (own which [a]) later.session (moved.2.ofSession which) := by
  have rests {slots : List Slot}
      (same : ∃ later, slots[which]? = some later ∧ slot.session = later.session) :
      ∃ later, slots[which]? = some later ∧ Session.Ran p slot.session [] later.session [] := by
    obtain ⟨later, now, same⟩ := same
    exact ⟨later, now, same ▸ .start⟩
  cases step with
  | session there permitted moves =>
    rename_i i other moved a
    obtain ⟨inside, _⟩ := List.getElem?_eq_some_iff.1 there
    by_cases same : i = which
    · subst same
      cases held.symm.trans there
      have one : own i [.session i a] = [] ++ [a] := by simp [own]
      refine ⟨{ slot with session := moved.1 }, List.getElem?_set_self inside, ?_⟩
      rw [one]
      simp only [note]
      rw [ServerJournal.ofSession_session]
      exact Ran.step .start (Session.act_sound moves)
    · have none : own which [.session i a] = [] := by simp [own, same]
      simp only [note]
      rw [none, ServerJournal.ofSession_other same]
      exact rests ⟨slot, (List.getElem?_set_ne same).trans held, rfl⟩
  | start there stage => exact rests (session_of_set held there rfl)
  | leave there stage finished =>
    rename_i i other marker label
    have quiet : ServerJournal.ofSession which (other.session.result?.toList.map
        fun result => .log (.ended other.peer label result)) = [] := by
      simp [ServerJournal.ofSession]
    rw [quiet]
    exact rests (session_of_set held there rfl)
  | accept gate =>
    obtain ⟨inside, _⟩ := List.getElem?_eq_some_iff.1 held
    exact rests ⟨slot, (List.getElem?_append_left inside).trans held, rfl⟩
  | acceptFails gate => exact rests ⟨slot, held, rfl⟩
  | stop gate => exact rests ⟨slot, held, rfl⟩
  | waits gate looked =>
    rw [ServerJournal.ofSession_logs]
    exact rests ⟨slot, held, rfl⟩
  | returns gate looked => exact rests ⟨slot, held, rfl⟩
  | tick =>
    have quiet : ServerJournal.ofSession which s.tick.2 = [] := ServerJournal.ofSession_logs which _
    rw [quiet]
    exact rests ⟨slot, held, rfl⟩

theorem Ran.projects (ran : Ran p origin actions s j) (held : origin.slots[which]? = some slot) :
    ∃ later, s.slots[which]? = some later ∧
      Session.Ran p slot.session (own which actions) later.session (j.ofSession which) := by
  induction ran with
  | start => exact ⟨slot, held, .start⟩
  | step path step ih =>
    obtain ⟨middle, there, before⟩ := ih
    obtain ⟨later, now, moves⟩ := step.projects there
    refine ⟨later, now, ?_⟩
    rw [own_append, ServerJournal.ofSession_append]
    exact before.append moves

theorem Step.totals (step : Step p s a moved) (which : Nat) :
    moved.1.totals = s.totals.plus (moved.2.grown which) := by
  have quiet (events : List LogEvent) :
      s.totals = s.totals.plus (ServerJournal.grown which (events.map .log)) := by
    rw [ServerJournal.grown, ServerJournal.elsewhere_logs, ServerJournal.ofSession_logs]
    exact (Counts.plus_zero _).symm
  cases step with
  | session held permitted moves =>
    rename_i i slot moved a
    have counted : ServerJournal.grown which (moved.2.map (.session i)) = moved.2.counted := by
      by_cases same : i = which
      · subst same
        rw [ServerJournal.grown, ServerJournal.elsewhere_session, ServerJournal.ofSession_session]
        exact Counts.zero_plus _
      · rw [ServerJournal.grown, ServerJournal.elsewhere_other same,
          ServerJournal.ofSession_other same]
        exact Counts.plus_zero _
    exact (congrArg s.totals.plus counted).symm
  | leave held stage finished =>
    rename_i i slot marker label
    have here := quiet (slot.session.result?.toList.map (.ended slot.peer label))
    rw [List.map_map] at here
    exact here
  | waits gate looked => exact quiet _
  | tick => exact quiet _
  | acceptFails gate => exact quiet [_]
  | start held stage => exact quiet [_]
  | stop gate => exact quiet [_]
  | _ => exact quiet []

theorem Ran.totals (ran : Ran p origin actions s j) (which : Nat) :
    s.totals = origin.totals.plus (j.grown which) := by
  induction ran with
  | start => exact (Counts.plus_zero _).symm
  | step path step ih => rw [step.totals which, ih, Counts.plus_assoc, ServerJournal.grown_append]

-- What a tunnel counts is what it delivers, but for one write, and what it counts is what it reports
-- and what it adds to the totals.
theorem tunnel_accounting {client upstream : Connection} {dest : Authority}
    (ran : Server.run p origin actions = some (s, j)) (held : origin.slots[which]? = some slot)
    (begins : slot.session = Session.ofTunnel client upstream dest) :
    ∃ last, s.slots[which]? = some last ∧
      (∀ d, Session.Accounted p slot.session (own which actions) last.session
        (j.ofSession which) d) ∧
      (∀ other dest t, last.session.phase = .joined other dest (.tunneling t) →
        ∀ d, t.counts.get d = UInt64.ofNat ((j.ofSession which).recorded d)) ∧
      ∀ summary, last.session.result? = some (.ok (.tunneled summary)) →
        (∀ d, summary.counts.get d = UInt64.ofNat ((j.ofSession which).recorded d)) ∧
        s.totals = (origin.totals.plus (j.elsewhere which).counted).plus summary.counts ∧
        ∀ later t more, Server.run p s later = some (t, more) →
          ServerJournal.ofSession which more = [] ∧
          ∃ final, t.slots[which]? = some final ∧
            final.session.result? = some (.ok (.tunneled summary)) := by
  have path := run_exact.1 ran
  obtain ⟨last, now, alone⟩ := path.projects held
  rw [begins] at alone ⊢
  have course := Session.TunnelCourse.of_ran alone
  refine ⟨last, now, course.accounted, ?_, ?_⟩
  · intro other dest t phase d
    rw [course.running phase, Journal.get_counted]
  · intro summary returned
    obtain ⟨counts, ends, closed⟩ := course.reported returned
    refine ⟨?_, ?_, ?_⟩
    · intro d
      rw [counts, Journal.get_counted]
    · rw [counts, path.totals which, ServerJournal.grown, Counts.plus_assoc]
    · intro later t more went
      obtain ⟨final, there, rests⟩ := (run_exact.1 went).projects now
      obtain ⟨silent, _, still⟩ := closed.ran rests
      refine ⟨silent, final, there, ?_⟩
      simp [Session.result?, still.phase]

theorem tunnel_accounting_abandoned :
    let p : Policy := { credentials := .ofList [⟨"u".toList, "a".toList⟩], limits := { tunnel := 2 } }
    let peer : SocketAddress := ⟨.v4 ⟨192, 0, 2, 1⟩, 50000⟩
    let dest : Authority := ⟨"h".toList, 80⟩
    let first := Session.ofTunnel { unread := [1, 2, 3, 4] } {} dest
    let second := Session.ofTunnel {} { unread := [5] } dest
    let origin : Server := { slots := [
      { peer, stage := .running 0 "a".toList, session := first },
      { peer, stage := .running 1 "b".toList, session := second }] }
    let copy (which : Nat) (d : Direction) (size : Nat) : Action :=
      .session which (.tunnel (.copy d size))
    let actions : List Action := [copy 0 .up 0, copy 1 .down 0, copy 0 .up 2, copy 1 .down 1,
      copy 0 .up 0, copy 1 .down 0, copy 0 .up 0, .session 0 (.far .upstream .finish),
      copy 0 .up 1, copy 0 .down 0, copy 0 .down 0, .session 0 (.tunnel (.settle .down)),
      .session 0 (.tunnel .abandon), .session 0 .conclude]
    ∃ s j, Server.run p origin actions = some (s, j) ∧
      (∃ last, s.slots[0]? = some last ∧
        ∀ d, Session.Accounted p first (own 0 actions) last.session (j.ofSession 0) d) ∧
      (j.ofSession 0).recorded .up = 2 ∧ (j.ofSession 0).received .upstream = [1, 2, 3] ∧
      s.totals = (Counts.of .down 1).plus (Counts.of .up 2) := by
  intro p peer dest first second origin copy actions
  have possible : (Server.run p origin actions).isSome = true := by decide +kernel
  obtain ⟨⟨s, j⟩, ran⟩ := Option.isSome_iff_exists.1 possible
  have last : (Server.run p origin actions).any (fun done =>
      (done.1.slots[0]?.bind fun slot => slot.session.result?) = some (.ok (.tunneled
        { counts := { up := 2 }, closedBy := .down, error := none })) ∧
      (done.2.elsewhere 0).counted = Counts.of .down 1 ∧
      (done.2.ofSession 0).recorded .up = 2 ∧
      (done.2.ofSession 0).received .upstream = [1, 2, 3]) = true := by decide +kernel
  rw [ran] at last
  obtain ⟨returned, others, recorded, received⟩ := of_decide_eq_true last
  have held : origin.slots[0]? = some { peer, stage := .running 0 "a".toList, session := first } :=
    rfl
  obtain ⟨slot, now, accounted, _, final⟩ := tunnel_accounting ran held rfl
  rw [now] at returned
  obtain ⟨_, totals, _⟩ := final _ returned
  refine ⟨s, j, ran, ⟨slot, now, accounted⟩, recorded, received, ?_⟩
  rw [totals, others]
  rfl

end Server

end GatedProxy
