namespace GatedProxy

-- Up is from the client to the upstream.
inductive Direction where
  | up
  | down
  deriving DecidableEq, Repr

def Direction.other : Direction → Direction
  | .up => .down
  | .down => .up

structure Counts where
  up : UInt64 := 0
  down : UInt64 := 0
  deriving DecidableEq, Repr

namespace Counts

def get (c : Counts) : Direction → UInt64
  | .up => c.up
  | .down => c.down

def add (c : Counts) (d : Direction) (n : UInt64) : Counts :=
  match d with
  | .up => { c with up := c.up + n }
  | .down => { c with down := c.down + n }

def of (d : Direction) (n : UInt64) : Counts := ({} : Counts).add d n

def plus (a b : Counts) : Counts := { up := a.up + b.up, down := a.down + b.down }

theorem plus_assoc (a b c : Counts) : (a.plus b).plus c = a.plus (b.plus c) := by
  rw [plus, plus, plus, plus, UInt64.add_assoc, UInt64.add_assoc]

theorem plus_zero (a : Counts) : a.plus {} = a := by
  rw [plus, UInt64.add_zero, UInt64.add_zero]

theorem zero_plus (a : Counts) : ({} : Counts).plus a = a := by
  rw [plus, UInt64.zero_add, UInt64.zero_add]

end Counts

-- The counters of a process. Several handles may count for one tunnel, and what a handle records
-- is added to its tunnel first and to the totals afterwards: `pending` holds what is between.
-- Counters that stand apart feed nothing; one of them is there from the start.
structure Ledger where
  tunnels : List Counts := []
  handles : List Nat := []
  apart : List Counts := [{}]
  totals : Counts := {}
  pending : List (Direction × UInt64) := []
  deriving DecidableEq, Repr

namespace Ledger

inductive Action where
  | openTunnel
  | share (handle : Nat)
  | countLocally (handle : Nat) (d : Direction) (n : UInt64)
  | countTotal (which : Nat)
  | openApart
  | countApart (d : Direction) (n : UInt64) (which : Nat := 0)
  deriving DecidableEq, Repr

def act (l : Ledger) : Action → Option Ledger
  | .openTunnel =>
    some { l with tunnels := l.tunnels ++ [{}], handles := l.handles ++ [l.tunnels.length] }
  | .share handle => do
    let tunnel ← l.handles[handle]?
    some { l with handles := l.handles ++ [tunnel] }
  | .countLocally handle d n => do
    let tunnel ← l.handles[handle]?
    some { l with
      tunnels := l.tunnels.modify tunnel fun c => c.add d n
      pending := l.pending ++ [(d, n)] }
  | .countTotal which => do
    let (d, n) ← l.pending[which]?
    some { l with totals := l.totals.add d n, pending := l.pending.eraseIdx which }
  | .openApart => some { l with apart := l.apart ++ [{}] }
  | .countApart d n which =>
    if which < l.apart.length then
      some { l with apart := l.apart.modify which fun c => c.add d n }
    else none

def run (l : Ledger) : List Action → Option Ledger
  | [] => some l
  | a :: rest => do
    let l ← l.act a
    l.run rest

def record (l : Ledger) (handle : Nat) (d : Direction) (n : UInt64) : Option Ledger :=
  l.run [.countLocally handle d n, .countTotal l.pending.length]

def read (l : Ledger) (handle : Nat) : Counts :=
  (l.handles[handle]?.bind fun tunnel => l.tunnels[tunnel]?).getD {}

def separate (l : Ledger) : Counts := l.apart.headD {}

end Ledger

end GatedProxy
