import GatedProxy.SystemError
import GatedProxy.Text.Basic

namespace GatedProxy

inductive Call where
  | recv
  | send
  | shutdown
  deriving DecidableEq, Repr

inductive FarEvent where
  | send (data : Bytes)
  | finish
  | close
  | fault (call : Call) (error : SystemError)
  deriving DecidableEq, Repr

-- A connection as the proxy holds it. `finished`: nothing follows the unread bytes. `gone`: the
-- far end takes nothing more. `ended`: the proxy will send nothing more, and the far end can tell.
structure Connection where
  unread : Bytes := []
  finished : Bool := false
  gone : Bool := false
  recvFault : Option SystemError := none
  sendFault : Option SystemError := none
  shutdownFault : Option SystemError := none
  ended : Bool := false
  dropped : Bool := false
  deriving DecidableEq, Repr

namespace Connection

def listens (c : Connection) : Bool := !c.dropped && !c.finished

def far (c : Connection) : FarEvent → Connection
  | .send data => if c.listens then { c with unread := c.unread ++ data } else c
  | .finish => { c with finished := true }
  | .close => { c with finished := true, gone := true }
  | .fault .recv e => { c with finished := true, recvFault := some e }
  | .fault .send e => { c with sendFault := some e }
  | .fault .shutdown e => { c with shutdownFault := some e }

def read (c : Connection) (room : Nat) : Option (Except SystemError Bytes × Connection) :=
  match c.recvFault with
  | some e => some (.error e, c)
  | none =>
    if c.unread.isEmpty && !c.finished then none
    else some (.ok (c.unread.take room), { c with unread := c.unread.drop room })

def writeFault (c : Connection) : Option SystemError :=
  match c.sendFault with
  | some e => some e
  | none => if c.gone then some .brokenPipe else none

def write (c : Connection) (left : Bytes) (size : Nat) :
    Option (Except SystemError (Bytes × Bytes)) :=
  match c.writeFault with
  | some e => some (.error e)
  | none =>
    if size = 0 ∨ left.length < size then none
    else some (.ok (left.take size, left.drop size))

-- Ends the proxy's side. A connection that is no longer connected counts as shut down.
def shutdown (c : Connection) : Except SystemError Connection :=
  match c.shutdownFault with
  | some e => if e = .notConnected then .ok c else .error e
  | none => .ok { c with ended := true }

def drop (c : Connection) : Connection := { c with ended := true, dropped := true }

def endsAt (before after : Connection) : Bool := after.ended && !before.ended && !before.gone

theorem unread_of_read {c after : Connection} {room : Nat} {data : Bytes}
    (h : c.read room = some (.ok data, after)) :
    data.length + after.unread.length = c.unread.length := by
  unfold read at h
  split at h
  · cases h
  · split at h
    · cases h
    · cases h
      rw [← List.length_append, List.take_append_drop]

theorem unread_of_shutdown {c after : Connection} (h : c.shutdown = .ok after) :
    after.unread = c.unread := by
  unfold shutdown at h
  split at h
  · split at h <;> cases h
    rfl
  · cases h
    rfl

theorem left_of_write {c : Connection} {size : Nat} {left written rest : Bytes}
    (h : c.write left size = some (.ok (written, rest))) : rest.length < left.length := by
  unfold write at h
  split at h
  · cases h
  · split at h
    · cases h
    · cases h
      rw [List.length_drop]
      omega

end Connection

end GatedProxy
