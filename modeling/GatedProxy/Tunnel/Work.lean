import GatedProxy.Tunnel.Basic

namespace GatedProxy

namespace Tunnel

-- A bound on what a tunnel can still do if its far ends do nothing: a byte is read, written and
-- counted at most once.
def loopWork : CopyLoop → Nat
  | .reading => 4
  | .writing _ left => 5 + left.length
  | .closing _ => 3
  | .finished _ => 2
  | .stopped => 0

def work (t : Tunnel) (ends : Ends) : Nat :=
  3 * (ends.client.unread.length + ends.upstream.unread.length) +
    (loopWork t.up + loopWork t.down) + if t.first.isNone then 1 else 0

def othersWork (t : Tunnel) (d : Direction) (ends : Ends) : Nat :=
  3 * (ends.get d.sink).unread.length + loopWork (t.loop d.other) +
    if t.first.isNone then 1 else 0

theorem work_eq (t : Tunnel) (d : Direction) (ends : Ends) :
    t.work ends =
      3 * (ends.get d.source).unread.length + loopWork (t.loop d) + t.othersWork d ends := by
  cases d <;> simp only [work, othersWork, loop, Direction.other, Direction.source, Direction.sink,
    Ends.get] <;> omega

theorem loop_setLoop (t : Tunnel) (d : Direction) (l : CopyLoop) : (t.setLoop d l).loop d = l := by
  cases d <;> rfl

theorem othersWork_setLoop (t : Tunnel) (d : Direction) (l : CopyLoop) (ends : Ends) :
    (t.setLoop d l).othersWork d ends = t.othersWork d ends := by
  cases d <;> rfl

theorem othersWork_counts (t : Tunnel) (d : Direction) (counts : Counts) (ends : Ends) :
    { t with counts }.othersWork d ends = t.othersWork d ends := by
  cases d <;> rfl

theorem othersWork_set (t : Tunnel) (d : Direction) (ends : Ends) (c : Connection) :
    t.othersWork d (ends.set d.source c) = t.othersWork d ends := by
  cases d <;> rfl

theorem othersWork_set_sink (t : Tunnel) (d : Direction) (ends : Ends) {c : Connection}
    (same : c.unread = (ends.get d.sink).unread) :
    t.othersWork d (ends.set d.sink c) = t.othersWork d ends := by
  have equal : (ends.set d.sink c).get d.sink = c := by cases d <;> rfl
  rw [othersWork, othersWork, equal, same]

theorem setLoop_work {t : Tunnel} {d : Direction} {l : CopyLoop} {ends after : Ends}
    (others : t.othersWork d after = t.othersWork d ends)
    (less : 3 * (after.get d.source).unread.length + loopWork l <
      3 * (ends.get d.source).unread.length + loopWork (t.loop d)) :
    (t.setLoop d l).work after < t.work ends := by
  rw [work_eq t d, work_eq _ d, loop_setLoop, othersWork_setLoop, others]
  omega

theorem copy_work {t t' : Tunnel} {ends ends' : Ends} {room size : Nat} {d : Direction}
    {journal : Journal} (h : t.copy room ends d size = some (t', ends', journal)) :
    t'.work ends' < t.work ends := by
  unfold copy at h
  split at h
  · rename_i reading
    split at h
    · cases h
      refine setLoop_work rfl ?_
      rw [reading]
      simp only [loopWork]
      omega
    split at h
    · cases h
    · cases h
      refine setLoop_work rfl ?_
      rw [reading]
      simp only [loopWork]
      omega
    · rename_i data source read
      have same := Connection.unread_of_read read
      have held : (ends.set d.source source).get d.source = source := by cases d <;> rfl
      cases h
      refine setLoop_work (othersWork_set t d ends source) ?_
      rw [reading, held]
      cases data with
      | nil =>
        simp only [List.isEmpty_nil, if_true, loopWork]
        simp only [List.length_nil] at same
        omega
      | cons b rest =>
        simp only [List.isEmpty_cons, Bool.false_eq_true, if_false, loopWork]
        simp only [List.length_cons] at same ⊢
        omega
  · rename_i total writing
    cases h
    have less : loopWork .reading < loopWork (.writing total []) := Nat.lt_succ_self 4
    rw [← writing] at less
    rw [work_eq t d, work_eq _ d, loop_setLoop, othersWork_setLoop, othersWork_counts]
    omega
  · rename_i total left _ writing
    split at h
    · cases h
    · cases h
      refine setLoop_work rfl ?_
      rw [writing]
      simp only [loopWork]
      omega
    · rename_i wrote
      have shorter := Connection.left_of_write wrote
      cases h
      refine setLoop_work rfl ?_
      rw [writing]
      simp only [loopWork]
      omega
  · rename_i closing
    dsimp only at h
    split at h
    · cases h
      refine setLoop_work rfl ?_
      rw [closing]
      simp only [loopWork]
      omega
    · rename_i closed shut
      have same := Connection.unread_of_shutdown shut
      have source : (ends.set d.sink closed).get d.source = ends.get d.source := by
        cases d <;> rfl
      cases h
      refine setLoop_work (othersWork_set_sink t d ends same) ?_
      rw [closing, source]
      simp only [loopWork]
      omega
  · cases h
  · cases h

theorem settle_work {t t' : Tunnel} {d : Direction} (h : t.settle d = some t') (ends : Ends) :
    t'.work ends < t.work ends := by
  unfold settle at h
  split at h
  · rename_i first _
    cases h
    simp [work, first]
  · cases h

theorem loopWork_pos {l : CopyLoop} (waits : l.waits = true) : 0 < loopWork l := by
  cases l with
  | reading => exact Nat.succ_pos 3
  | writing _ left => exact Nat.lt_of_lt_of_le (Nat.succ_pos 4) (Nat.le_add_right 5 left.length)
  | closing _ => cases waits
  | finished _ => cases waits
  | stopped => cases waits

theorem abandon_work {t t' : Tunnel} (h : t.abandon = some t') (ends : Ends) :
    t'.work ends < t.work ends := by
  unfold abandon at h
  split at h
  · rename_i d _ _
    split at h
    · rename_i waits
      cases h
      exact setLoop_work rfl (Nat.add_lt_add_left (loopWork_pos waits) _)
    · cases h
  · cases h

theorem act_work {t t' : Tunnel} {ends ends' : Ends} {room : Nat} {a : Action}
    {journal : Journal} (h : t.act room ends a = some (t', ends', journal)) :
    t'.work ends' < t.work ends := by
  cases a with
  | copy d size => exact copy_work h
  | settle d =>
    obtain ⟨u, settled, equal⟩ := Option.map_eq_some_iff.1 h
    cases equal
    exact settle_work settled ends
  | abandon =>
    obtain ⟨u, abandoned, equal⟩ := Option.map_eq_some_iff.1 h
    cases equal
    exact abandon_work abandoned ends

end Tunnel

end GatedProxy
