import GatedProxy.Server.Basic
import GatedProxy.Session.Run

namespace GatedProxy

namespace Server

def andThen (p : Policy) (a : Action) (done : Server × ServerJournal) : Server × ServerJournal :=
  match done.1.act p a with
  | some (s, journal) => (s, done.2 ++ journal)
  | none => done

def settle (net : Network) (p : Policy) (which : Nat) (done : Server × ServerJournal) :
    Server × ServerJournal :=
  match done.1.slots[which]? with
  | some slot =>
    match slot.stage with
    | .running _ _ =>
      let (s, journal) := done.1.note which slot (slot.session.settle net p)
      andThen p (.leave which) (s, done.2 ++ journal)
    | .spawned | .ended => done
  | none => done

def react (net : Network) (p : Policy) (s : Server) (which : Nat) (who : End) (event : FarEvent) :
    Option (Server × ServerJournal) :=
  (s.act p (.session which (.far who event))).map (settle net p which)

end Server

-- A server with a clock, in milliseconds from its start. A status interval of zero asks for no
-- status lines.
structure Timeline where
  server : Server := {}
  statusSeconds : Nat := 0
  now : Nat := 0
  stoppedAt : Nat := 0

namespace Timeline

def moments (period start now last : Nat) : List Nat :=
  if period = 0 then []
  else
    let before := (now - start) / period
    (List.range ((last - start) / period - before)).map fun k => start + (before + 1 + k) * period

def connect (net : Network) (p : Policy) (t : Timeline) (peer : SocketAddress)
    (failure : Option SystemError) : Option (Timeline × ServerJournal) :=
  if t.server.isServing then
    let which := t.server.slots.length
    let failures := failure.toList.map Server.Action.acceptFails
    let actions := failures ++ [.accept peer, .start which (t.now * 1000000)]
    let started := actions.foldl (fun done a => Server.andThen p a done) (t.server, [])
    let (server, journal) := Server.settle net p which started
    some ({ t with server }, journal)
  else none

def react (net : Network) (p : Policy) (t : Timeline) (which : Nat) (who : End)
    (event : FarEvent) : Option (Timeline × ServerJournal) :=
  (t.server.react net p which who event).map fun (server, journal) => ({ t with server }, journal)

def stop (p : Policy) (t : Timeline) : Timeline × ServerJournal :=
  if t.server.isServing then
    let (server, journal) :=
      Server.andThen p .poll (Server.andThen p .stop (t.server, []))
    ({ t with server, stoppedAt := t.now }, journal)
  else (t, [])

def isDraining (t : Timeline) : Bool :=
  match t.server.gate with
  | .draining _ => true
  | .serving | .returned => false

-- The timers that fire up to `last`, each at its time; of two at one time the status line is first.
def timers (t : Timeline) (last : Nat) : List (Nat × Server.Action) :=
  let ticks := (moments (t.statusSeconds * 1000) 0 t.now last).map (·, Server.Action.tick)
  let polls := if t.isDraining then moments Drain.interval t.stoppedAt t.now last else []
  (ticks ++ polls.map (·, Server.Action.poll)).mergeSort fun a b => a.1 ≤ b.1

def advance (p : Policy) (t : Timeline) (milliseconds : Nat) : Timeline × ServerJournal :=
  let last := t.now + milliseconds
  let actions := (t.timers last).map Prod.snd
  let (server, journal) :=
    actions.foldl (fun done a => Server.andThen p a done) (t.server, [])
  ({ t with server, now := last }, journal)

end Timeline

end GatedProxy
