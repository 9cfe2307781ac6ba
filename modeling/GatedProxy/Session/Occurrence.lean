import GatedProxy.Connection
import GatedProxy.Log.Event

namespace GatedProxy

inductive End where
  | client
  | upstream
  deriving DecidableEq, Repr

def Direction.source : Direction → End
  | .up => .client
  | .down => .upstream

def Direction.sink : Direction → End
  | .up => .upstream
  | .down => .client

inductive Occurrence where
  | arrived (who : End) (data : Bytes)
  -- one read by the proxy; no bytes at end-of-file
  | read (who : End) (data : Bytes)
  | wrote (who : End) (data : Bytes)
  -- the far end can tell that nothing more comes
  | ended (who : End)
  | dropped (who : End)
  | lookup (host : Text)
  | attempt (address : SocketAddress)
  | opened
  | counted (d : Direction) (size : Nat)
  | log (event : LogEvent)
  | returned (result : SessionResult)
  deriving DecidableEq

abbrev Journal := List Occurrence

namespace Journal

def lookups (j : Journal) : List Text :=
  j.filterMap fun
    | .lookup host => some host
    | _ => none

def attempts (j : Journal) : List SocketAddress :=
  j.filterMap fun
    | .attempt address => some address
    | _ => none

def received (who : End) (j : Journal) : Bytes :=
  j.flatMap fun
    | .wrote dest data => if dest = who then data else []
    | _ => []

-- Everything that `who` sent while it was heard.
def sent (who : End) (j : Journal) : Bytes :=
  j.flatMap fun
    | .arrived from_ data => if from_ = who then data else []
    | _ => []

def endings (j : Journal) : List End :=
  j.filterMap fun
    | .ended who => some who
    | _ => none

def events (j : Journal) : List LogEvent :=
  j.filterMap fun
    | .log event => some event
    | _ => none

def result? (j : Journal) : Option SessionResult :=
  j.findSome? fun
    | .returned result => some result
    | _ => none

def counted : Journal → Counts
  | [] => {}
  | .counted d size :: rest => (Counts.of d (UInt64.ofNat size)).plus (counted rest)
  | _ :: rest => counted rest

theorem counted_append (j k : Journal) : (j ++ k).counted = j.counted.plus k.counted := by
  fun_induction counted j with
  | case1 => exact (Counts.zero_plus _).symm
  | case2 d size rest ih => rw [List.cons_append, counted, ih, Counts.plus_assoc]
  | case3 o rest other ih =>
    rw [List.cons_append, counted, ih]
    exact other

end Journal

end GatedProxy
