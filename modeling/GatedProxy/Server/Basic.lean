import GatedProxy.Log.Event
import GatedProxy.Session.Basic
import GatedProxy.Text.Basic

namespace GatedProxy

inductive Marker where
  | held
  | released
  | dropped
  deriving DecidableEq, Repr

structure Presence where
  markers : List Marker := []
  active : UInt64 := 0
  deriving DecidableEq, Repr

namespace Presence

inductive Action where
  | enter
  | release (which : Nat)
  | drop (which : Nat)
  deriving DecidableEq, Repr

def leave (p : Presence) (which : Nat) (final : Marker) : Presence :=
  match p.markers[which]? with
  | some .held => { markers := p.markers.set which final, active := p.active - 1 }
  | some .released => { p with markers := p.markers.set which final }
  | some .dropped | none => p

def act (p : Presence) : Action → Presence
  | .enter => { markers := p.markers ++ [.held], active := p.active + 1 }
  | .release which => p.leave which .released
  | .drop which => p.leave which .dropped

def run (p : Presence) (actions : List Action) : Presence := actions.foldl act p

end Presence

namespace SessionId

-- 48 bits of the clock, then 32 bits of the sequence number. A clock before its epoch reads zero.
def render (nanoseconds : Int) (sequence : UInt64) : Text :=
  Text.hexPadded 12 (nanoseconds.toNat % 0x1000000000000) ++
    Text.hexPadded 8 (sequence.toNat % 0x100000000)

def firstSequence : UInt64 := 1

def issue (sequence : UInt64) : List Int → List Text
  | [] => []
  | now :: later => render now sequence :: issue (sequence + 1) later

end SessionId

structure Drain where
  reported : UInt64 := 0
  deriving DecidableEq, Repr

namespace Drain

def poll (d : Drain) (active : UInt64) : Option (Drain × Option LogEvent) :=
  if active = 0 then none
  else if active = d.reported then some (d, none)
  else some ({ reported := active }, some (.waiting active))

def interval : Nat := 250

-- One look after another, the first of them `now` and then one `every` so many milliseconds: what
-- is announced at each look but the last, and when the last one is.
def watch (d : Drain) (every now : Nat) : List UInt64 → List (Nat × Option LogEvent) × Option Nat
  | [] => ([], none)
  | active :: later =>
    match d.poll active with
    | none => ([], some now)
    | some (d, event) =>
      let (looks, last) := d.watch every (now + every) later
      ((now, event) :: looks, last)

end Drain

structure Sample where
  active : UInt64 := 0
  totals : Counts := {}
  deriving DecidableEq, Repr

structure Monitor where
  last : Sample := {}
  deriving DecidableEq, Repr

namespace Monitor

def tick (m : Monitor) (now : Sample) : Monitor × Option LogEvent :=
  ({ last := now }, if now = m.last then none else some (.status now.active now.totals))

def watch (m : Monitor) : List Sample → List (Option LogEvent)
  | [] => []
  | now :: later =>
    let (m, event) := m.tick now
    event :: m.watch later

end Monitor

-- The task of a connection: it has been spawned, it has made its first step, it has ended. Its
-- first step takes a marker and an id.
inductive Stage where
  | spawned
  | running (marker : Nat) (id : Text)
  | ended
  deriving DecidableEq, Repr

def Stage.permits : Stage → Session.Action → Bool
  | _, .far _ _ => true
  | .running _ _, _ => true
  | .spawned, _ | .ended, _ => false

structure Slot where
  peer : SocketAddress
  stage : Stage := .spawned
  session : Session := {}
  deriving DecidableEq

inductive Gate where
  | serving
  | draining (d : Drain)
  | returned
  deriving DecidableEq, Repr

structure Server where
  slots : List Slot := []
  presence : Presence := {}
  totals : Counts := {}
  sequence : UInt64 := SessionId.firstSequence
  gate : Gate := .serving
  monitor : Monitor := {}
  deriving DecidableEq

inductive ServerOccurrence where
  | session (which : Nat) (o : Occurrence)
  | log (event : LogEvent)
  deriving DecidableEq

abbrev ServerJournal := List ServerOccurrence

namespace ServerJournal

def ofSession (which : Nat) (j : ServerJournal) : Journal :=
  j.filterMap fun
    | .session i o => if i = which then some o else none
    | .log _ => none

def occurrences (j : ServerJournal) : List (Nat × Occurrence) :=
  j.filterMap fun
    | .session i o => some (i, o)
    | .log _ => none

def events (j : ServerJournal) : List LogEvent :=
  j.filterMap fun
    | .session _ (.log event) | .log event => some event
    | .session _ _ => none

def openings (j : ServerJournal) : List Nat :=
  j.filterMap fun
    | .session i .opened => some i
    | _ => none

end ServerJournal

namespace Server

-- The order of actions is free: tasks start when they are let to, sessions run against each
-- other, and the shutdown comes at any time.
inductive Action where
  | accept (peer : SocketAddress)
  | acceptFails (e : SystemError)
  | start (which : Nat) (now : Int)
  | session (which : Nat) (a : Session.Action)
  | leave (which : Nat)
  | stop
  | poll
  | tick
  deriving DecidableEq

def isServing (s : Server) : Bool := s.gate = .serving

def sample (s : Server) : Sample := { active := s.presence.active, totals := s.totals }

-- A connection counts as active from the first step of its task, not from its acceptance.
def start (s : Server) (which : Nat) (now : Int) : Option (Server × ServerJournal) :=
  match s.slots[which]? with
  | some { peer, stage := .spawned, session } =>
    let id := SessionId.render now s.sequence
    let slot : Slot := { peer, stage := .running s.presence.markers.length id, session }
    some ({ s with
      slots := s.slots.set which slot
      presence := s.presence.act .enter
      sequence := s.sequence + 1 }, [.log (.connected peer id)])
  | _ => none

def note (s : Server) (which : Nat) (slot : Slot) (moved : Session × Journal) :
    Server × ServerJournal :=
  ({ s with
    slots := s.slots.set which { slot with session := moved.1 }
    totals := s.totals.plus moved.2.counted }, moved.2.map (.session which))

def session (p : Policy) (s : Server) (which : Nat) (a : Session.Action) :
    Option (Server × ServerJournal) :=
  match s.slots[which]? with
  | none => none
  | some slot =>
    if slot.stage.permits a then (slot.session.act p a).map (s.note which slot) else none

-- The end of a task: the marker is released, and then dropped. A task that broke down only drops
-- it, and nothing is reported.
def leave (s : Server) (which : Nat) : Option (Server × ServerJournal) :=
  match s.slots[which]? with
  | some { peer, stage := .running marker id, session } =>
    if session.isOver then
      let result := session.result?.toList
      let released := result.map fun _ => Presence.Action.release marker
      some ({ s with
        slots := s.slots.set which { peer, stage := .ended, session }
        presence := s.presence.run (released ++ [.drop marker]) },
        result.map fun result => .log (.ended peer id result))
    else none
  | _ => none

def poll (s : Server) : Option (Server × ServerJournal) :=
  match s.gate with
  | .draining d =>
    match d.poll s.presence.active with
    | none => some ({ s with gate := .returned }, [])
    | some (d, event) => some ({ s with gate := .draining d }, event.toList.map .log)
  | .serving | .returned => none

def tick (s : Server) : Server × ServerJournal :=
  let (monitor, event) := s.monitor.tick s.sample
  ({ s with monitor }, event.toList.map .log)

def act (p : Policy) (s : Server) : Action → Option (Server × ServerJournal)
  | .accept peer =>
    if s.isServing then some ({ s with slots := s.slots ++ [{ peer }] }, []) else none
  | .acceptFails e => if s.isServing then some (s, [.log (.acceptFailed e)]) else none
  | .start which now => s.start which now
  | .session which a => s.session p which a
  | .leave which => s.leave which
  | .stop => if s.isServing then some ({ s with gate := .draining {} }, [.log .stopping]) else none
  | .poll => s.poll
  | .tick => some s.tick

def run (p : Policy) (s : Server) : List Action → Option (Server × ServerJournal)
  | [] => some (s, [])
  | a :: rest => do
    let (s, journal) ← s.act p a
    let (s, later) ← s.run p rest
    some (s, journal ++ later)

end Server

end GatedProxy
