import GatedProxy.Session.Occurrence
import GatedProxy.Settings

namespace GatedProxy

structure Ends where
  client : Connection
  upstream : Connection
  deriving DecidableEq, Repr

namespace Ends

def get (ends : Ends) : End → Connection
  | .client => ends.client
  | .upstream => ends.upstream

def set (ends : Ends) (who : End) (c : Connection) : Ends :=
  match who with
  | .client => { ends with client := c }
  | .upstream => { ends with upstream := c }

end Ends

-- One direction of a tunnel. `writing`: of `size` bytes that were read, `left` are to be written.
-- `closing`: the loop is done with copying, by end-of-file or by an error, and will shut its sink
-- down. `stopped`: it was cut off because the other direction finished first.
inductive CopyLoop where
  | reading
  | writing (size : Nat) (left : Bytes)
  | closing (result : Option SystemError)
  | finished (result : Option CopyError)
  | stopped
  deriving DecidableEq, Repr

-- A loop is cut off only where it waits. One that has written all it read goes on to count it.
def CopyLoop.waits : CopyLoop → Bool
  | .reading => true
  | .writing _ left => !left.isEmpty
  | .closing _ | .finished _ | .stopped => false

def CopyLoop.isDone : CopyLoop → Bool
  | .finished _ | .stopped => true
  | .reading | .writing .. | .closing _ => false

structure Tunnel where
  up : CopyLoop := .reading
  down : CopyLoop := .reading
  counts : Counts := {}
  first : Option (Direction × Option CopyError) := none
  deriving DecidableEq, Repr

namespace Tunnel

def loop (t : Tunnel) : Direction → CopyLoop
  | .up => t.up
  | .down => t.down

def setLoop (t : Tunnel) (d : Direction) (l : CopyLoop) : Tunnel :=
  match d with
  | .up => { t with up := l }
  | .down => { t with down := l }

-- Between two actions anything may happen to the connections. `size` is how much of a write is
-- accepted; a loop that has no write to do pays no heed to it.
inductive Action where
  | copy (d : Direction) (size : Nat)
  | settle (d : Direction)
  | abandon
  deriving DecidableEq, Repr

def copy (room : Nat) (t : Tunnel) (ends : Ends) (d : Direction) (size : Nat) :
    Option (Tunnel × Ends × Journal) :=
  match t.loop d with
  | .reading =>
    -- The buffer is made before the first read.
    if Limits.largest < room then some (t.setLoop d (.finished (some .unheld)), ends, [])
    else
      match (ends.get d.source).read room with
      | none => none
      | some (.error e, _) => some (t.setLoop d (.closing (some e)), ends, [])
      | some (.ok data, source) =>
        let after := if data.isEmpty then .closing none else .writing data.length data
        some (t.setLoop d after, ends.set d.source source, [.read d.source data])
  | .writing total [] =>
    let counts := t.counts.add d (UInt64.ofNat total)
    some ({ t with counts }.setLoop d .reading, ends, [.counted d total])
  | .writing total left =>
    match (ends.get d.sink).write left size with
    | none => none
    | some (.error e) => some (t.setLoop d (.closing (some e)), ends, [])
    | some (.ok (written, left)) =>
      some (t.setLoop d (.writing total left), ends, [.wrote d.sink written])
  | .closing result =>
    let sink := ends.get d.sink
    match sink.shutdown with
    | .error e =>
      some (t.setLoop d (.finished (result.map .system)), ends, [.log (.shutdownFailed d e)])
    | .ok closed =>
      some (t.setLoop d (.finished (result.map .system)), ends.set d.sink closed,
        if sink.endsAt closed then [.ended d.sink] else [])
  | .finished _ | .stopped => none

def settle (t : Tunnel) (d : Direction) : Option Tunnel :=
  match t.first, t.loop d with
  | none, .finished result => some { t with first := some (d, result) }
  | _, _ => none

def abandon (t : Tunnel) : Option Tunnel :=
  match t.first with
  | some (d, _) => if (t.loop d.other).waits then some (t.setLoop d.other .stopped) else none
  | none => none

def act (room : Nat) (t : Tunnel) (ends : Ends) : Action → Option (Tunnel × Ends × Journal)
  | .copy d size => t.copy room ends d size
  | .settle d => t.settle d |>.map fun t => (t, ends, [])
  | .abandon => t.abandon |>.map fun t => (t, ends, [])

def summary? (t : Tunnel) : Option TunnelSummary :=
  match t.first with
  | some (d, result) =>
    if (t.loop d.other).isDone then some { counts := t.counts, closedBy := d, error := result }
    else none
  | none => none

end Tunnel

end GatedProxy
