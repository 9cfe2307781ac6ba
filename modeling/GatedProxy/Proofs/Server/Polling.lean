import GatedProxy.Proofs.Server.Step
import GatedProxy.Proofs.Server.Watch

namespace GatedProxy

def LogEvent.isStatus : LogEvent → Bool
  | .status _ _ => true
  | _ => false

def LogEvent.isWaiting : LogEvent → Bool
  | .waiting _ => true
  | _ => false

namespace ServerJournal

def logged (j : ServerJournal) : List LogEvent :=
  j.filterMap fun
    | .log event => some event
    | .session _ _ => none

def statuses (j : ServerJournal) : List LogEvent := j.logged.filter LogEvent.isStatus

def waitings (j : ServerJournal) : List LogEvent := j.logged.filter LogEvent.isWaiting

theorem logged_append (j k : ServerJournal) : (j ++ k).logged = j.logged ++ k.logged :=
  List.filterMap_append

theorem logged_logs (events : List LogEvent) : ServerJournal.logged (events.map .log) = events := by
  simp [logged, List.filterMap_map]

theorem logged_session (which : Nat) (j : Journal) :
    ServerJournal.logged (j.map (.session which)) = [] := by
  simp [logged]

theorem statuses_append (j k : ServerJournal) : (j ++ k).statuses = j.statuses ++ k.statuses := by
  rw [statuses, logged_append, List.filter_append]
  rfl

theorem waitings_append (j k : ServerJournal) : (j ++ k).waitings = j.waitings ++ k.waitings := by
  rw [waitings, logged_append, List.filter_append]
  rfl

end ServerJournal

theorem Drain.occupied_busy {samples : List UInt64} (busy : 0 ∉ samples) (more : List UInt64) :
    Drain.occupied (samples ++ more) = samples ++ Drain.occupied more := by
  apply List.takeWhile_append_of_pos
  intro active member
  rw [decide_eq_true_iff]
  rintro rfl
  exact busy member

theorem Drain.occupied_all {samples : List UInt64} (busy : 0 ∉ samples) :
    Drain.occupied samples = samples := by
  have whole := Drain.occupied_busy busy []
  rw [List.append_nil] at whole
  exact whole.trans (List.append_nil samples)

theorem Drain.occupied_over {samples : List UInt64} (zero : 0 ∈ samples) (more : List UInt64) :
    Drain.occupied (samples ++ more) = Drain.occupied samples := by
  obtain ⟨before, after, rfl, busy⟩ := List.eq_append_cons_of_mem zero
  rw [List.append_assoc, Drain.occupied_busy busy, Drain.occupied_busy busy]
  rfl

-- What the gate of a server says of the looks at its active count.
def Gate.Shows : Gate → List UInt64 → Prop
  | .serving, samples => samples = []
  | .draining d, samples => 0 ∉ samples ∧ d.reported = samples.getLastD 0
  | .returned, samples => 0 ∈ samples

namespace Server

variable {p : Policy} {s t : Server} {j k : ServerJournal} {actions : List Action}

def look? (s : Server) : Action → Option UInt64
  | .poll => some s.presence.active
  | _ => none

def tick? (s : Server) : Action → Option Sample
  | .tick => some s.sample
  | _ => none

def seen (view : Server → Action → Option View) (p : Policy) : Server → List Action → List View :=
  views (act p) view

theorem Ran.seen_snoc (path : Ran p s actions t j) (view : Server → Action → Option View)
    (a : Action) :
    seen view p s (actions ++ [a]) = seen view p s actions ++ (view t a).toList :=
  (runs p).views_snoc view (run_exact.2 path) a

structure Monitored (samples : List Sample) (s : Server) (j : ServerJournal) : Prop where
  last : s.monitor.last = samples.getLastD {}
  lines : j.statuses = (changes {} samples).reduceOption.map Sample.line

theorem Monitored.start : Monitored [] {} [] := ⟨rfl, rfl⟩

theorem Monitored.still (monitored : Monitored samples s j) (monitor : t.monitor = s.monitor)
    (quiet : k.statuses = []) : Monitored (samples ++ []) t (j ++ k) := by
  rw [List.append_nil]
  refine ⟨monitor ▸ monitored.last, ?_⟩
  rw [ServerJournal.statuses_append, quiet, List.append_nil]
  exact monitored.lines

theorem tick_logged (s : Server) : s.tick.2.logged =
    (if s.sample = s.monitor.last then none else some s.sample.line).toList :=
  ServerJournal.logged_logs _

theorem Monitored.tick (monitored : Monitored samples s j) :
    Monitored (samples ++ [s.sample]) s.tick.1 (j ++ s.tick.2) := by
  have lines : s.tick.2.statuses =
      [if s.sample = s.monitor.last then none else some s.sample].reduceOption.map Sample.line := by
    rw [ServerJournal.statuses, tick_logged]
    split <;> rfl
  refine ⟨List.getLastD_concat.symm, ?_⟩
  rw [ServerJournal.statuses_append, changes_snoc, List.reduceOption_append, List.map_append,
    ← monitored.lines, ← monitored.last, lines]

theorem Step.monitored (step : Step p s a moved) (monitored : Monitored samples s j) :
    Monitored (samples ++ (s.tick? a).toList) moved.1 (j ++ moved.2) := by
  cases step with
  | tick => exact monitored.tick
  | session held permitted moves =>
    refine monitored.still rfl ?_
    rw [note, ServerJournal.statuses, ServerJournal.logged_session]
    rfl
  | leave held stage finished =>
    refine monitored.still rfl ?_
    cases Session.result? _ <;> rfl
  | waits gate looked =>
    refine monitored.still rfl ?_
    obtain ⟨_, _, rfl⟩ := Drain.poll_eq_some.1 looked
    split <;> rfl
  | _ => exact monitored.still rfl rfl

structure Drained (samples : List UInt64) (s : Server) (j : ServerJournal) : Prop where
  gate : s.gate.Shows samples
  lines : j.waitings = (changes 0 (Drain.occupied samples)).reduceOption.map LogEvent.waiting

theorem Drained.start : Drained [] {} [] := ⟨rfl, rfl⟩

theorem Drained.still (drained : Drained samples s j) (gate : t.gate = s.gate)
    (quiet : k.waitings = []) : Drained (samples ++ []) t (j ++ k) := by
  rw [List.append_nil]
  refine ⟨gate ▸ drained.gate, ?_⟩
  rw [ServerJournal.waitings_append, quiet, List.append_nil]
  exact drained.lines

theorem Drained.note (drained : Drained samples s j) (which : Nat) (slot : Slot)
    (moved : Session × Journal) :
    Drained samples (s.note which slot moved).1 (j ++ (s.note which slot moved).2) := by
  have quiet : (s.note which slot moved).2.waitings = [] := by
    rw [Server.note, ServerJournal.waitings, ServerJournal.logged_session]
    rfl
  have noted := drained.still (t := (s.note which slot moved).1) rfl quiet
  rwa [List.append_nil] at noted

-- Looks that nobody makes any more.
theorem Drained.unseen (drained : Drained samples s j) (returned : s.gate = .returned)
    (more : List UInt64) : Drained (samples ++ more) s j := by
  have zero : 0 ∈ samples := by
    have gate := drained.gate
    rwa [returned] at gate
  refine ⟨?_, ?_⟩
  · rw [returned]
    exact List.mem_append_left more zero
  · rw [Drain.occupied_over zero]
    exact drained.lines

theorem Drained.waits (drained : Drained samples s j) (gate : s.gate = .draining d)
    (looked : d.poll s.presence.active = some (later, event)) :
    Drained (samples ++ [s.presence.active]) { s with gate := .draining later }
      (j ++ event.toList.map .log) := by
  have shows := drained.gate
  rw [gate] at shows
  obtain ⟨busy, reported⟩ := shows
  obtain ⟨more, rfl, rfl⟩ := Drain.poll_eq_some.1 looked
  have still : 0 ∉ samples ++ [s.presence.active] := by
    intro zero
    rcases List.mem_append.1 zero with earlier | now
    · exact busy earlier
    · exact more (List.mem_singleton.1 now).symm
  refine ⟨⟨still, List.getLastD_concat.symm⟩, ?_⟩
  have now : ServerJournal.waitings ((if s.presence.active = d.reported then none
        else some (LogEvent.waiting s.presence.active)).toList.map .log) =
      [if s.presence.active = d.reported then none else some s.presence.active].reduceOption.map
        LogEvent.waiting := by
    split <;> rfl
  rw [ServerJournal.waitings_append, now, drained.lines, Drain.occupied_all busy,
    Drain.occupied_all still, changes_snoc, List.reduceOption_append, List.map_append, reported]

theorem Drained.returns (drained : Drained samples s j) (gate : s.gate = .draining d)
    (looked : d.poll s.presence.active = none) :
    Drained (samples ++ [s.presence.active]) { s with gate := .returned } (j ++ []) := by
  have shows := drained.gate
  rw [gate] at shows
  have zero := Drain.poll_eq_none.1 looked
  have same : Drain.occupied (samples ++ [s.presence.active]) = Drain.occupied samples := by
    rw [zero, Drain.occupied_busy shows.1, Drain.occupied_all shows.1]
    exact List.append_nil samples
  refine ⟨?_, ?_⟩
  · rw [zero]
    exact List.mem_concat_self
  · rw [same, List.append_nil]
    exact drained.lines

theorem Step.drained (step : Step p s a moved) (drained : Drained samples s j) :
    Drained (samples ++ (s.look? a).toList) moved.1 (j ++ moved.2) := by
  cases step with
  | stop gate =>
    have shows := drained.gate
    rw [gate] at shows
    cases shows
    refine ⟨⟨List.not_mem_nil, rfl⟩, ?_⟩
    rw [ServerJournal.waitings_append, drained.lines]
    rfl
  | waits gate looked => exact drained.waits gate looked
  | returns gate looked => exact drained.returns gate looked
  | tick =>
    refine drained.still rfl ?_
    rw [ServerJournal.waitings, tick_logged]
    split <;> rfl
  | session held permitted moves => exact (List.append_nil samples).symm ▸ drained.note _ _ _
  | leave held stage finished =>
    refine drained.still rfl ?_
    cases Session.result? _ <;> rfl
  | _ => exact drained.still rfl rfl

theorem Monitored.statuses (monitored : Monitored samples s j) :
    j.statuses = (({} : Monitor).watch samples).reduceOption := by
  rw [Monitor.watch_changes, List.reduceOption_map]
  exact monitored.lines

theorem Drained.waitings (drained : Drained samples s j) (every start : Nat) :
    j.waitings = ((({} : Drain).watch every start samples).1.map Prod.snd).reduceOption := by
  rw [Drain.watch_announced, List.reduceOption_map]
  exact drained.lines

theorem Drained.returned (drained : Drained samples s j) (every start : Nat) :
    s.gate = .returned ↔ (({} : Drain).watch every start samples).2.isSome = true := by
  rw [Drain.watch_isSome]
  have shows := drained.gate
  cases gate : s.gate with
  | serving =>
    rw [gate] at shows
    exact iff_of_false nofun (shows ▸ List.not_mem_nil)
  | draining d =>
    rw [gate] at shows
    exact iff_of_false nofun shows.1
  | returned =>
    rw [gate] at shows
    exact iff_of_true rfl shows

theorem Ran.monitored (ran : Ran p {} actions s j) : Monitored (seen tick? p {} actions) s j := by
  induction ran with
  | start => exact .start
  | step path step ih =>
    rw [Ran.seen_snoc path]
    exact step.monitored ih

theorem Ran.drained (ran : Ran p {} actions s j) : Drained (seen look? p {} actions) s j := by
  induction ran with
  | start => exact .start
  | step path step ih =>
    rw [Ran.seen_snoc path]
    exact step.drained ih

end Server

end GatedProxy
