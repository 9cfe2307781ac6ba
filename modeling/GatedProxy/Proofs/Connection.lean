import GatedProxy.Connection

namespace GatedProxy.Connection

variable {c later : Connection}

theorem read_ok (took : c.read room = some (.ok data, later)) :
    data = c.unread.take room ∧ later = { c with unread := c.unread.drop room } ∧
      (c.unread = [] → c.finished = true) := by
  unfold read at took
  split at took
  · cases took
  · split at took
    · cases took
    · rename_i ready
      cases took
      refine ⟨rfl, rfl, ?_⟩
      intro empty
      simpa [empty] using ready

theorem read_error (took : c.read room = some (.error e, later)) : later = c := by
  unfold read at took
  split at took
  · cases took
    rfl
  · split at took <;> cases took

theorem read_fault (took : c.read room = some (result, later)) :
    c.recvFault = match result with
      | .error e => some e
      | .ok _ => none := by
  unfold read at took
  split at took
  · rename_i fault
    cases took
    exact fault
  · rename_i sound
    split at took
    · cases took
    · cases took
      exact sound

theorem read_unread (took : c.read room = some (.ok data, later)) :
    data ++ later.unread = c.unread := by
  obtain ⟨rfl, rfl, _⟩ := read_ok took
  exact List.take_append_drop room c.unread

theorem write_ok (wrote : c.write left size = some (.ok (accepted, rest))) :
    accepted ++ rest = left := by
  unfold write at wrote
  split at wrote
  · cases wrote
  · split at wrote
    · cases wrote
    · cases wrote
      exact List.take_append_drop size left

theorem shutdown_ok (shut : c.shutdown = .ok later) :
    later.unread = c.unread ∧ later.finished = c.finished ∧ later.dropped = c.dropped := by
  unfold shutdown at shut
  split at shut
  · split at shut
    · cases shut
      exact ⟨rfl, rfl, rfl⟩
    · cases shut
  · cases shut
    exact ⟨rfl, rfl, rfl⟩

theorem far_dropped (c : Connection) (event : FarEvent) : (c.far event).dropped = c.dropped := by
  cases event with
  | send data =>
    dsimp only [far]
    split <;> rfl
  | fault call e => cases call <;> rfl
  | _ => rfl

theorem read_dropped (took : c.read room = some (.ok data, later)) :
    later.dropped = c.dropped := by
  obtain ⟨_, rfl, _⟩ := read_ok took
  rfl

def Dry (c : Connection) : Prop := c.unread = [] ∧ c.finished = true

theorem Dry.far (dry : c.Dry) (event : FarEvent) : (c.far event).Dry := by
  obtain ⟨empty, finished⟩ := dry
  cases event with
  | send data => simp [Dry, Connection.far, listens, empty, finished]
  | finish => exact ⟨empty, rfl⟩
  | close => exact ⟨empty, rfl⟩
  | fault call e =>
    cases call with
    | recv => exact ⟨empty, rfl⟩
    | send => exact ⟨empty, finished⟩
    | shutdown => exact ⟨empty, finished⟩

theorem read_dry (took : c.read room = some (.ok [], later)) (space : 0 < room) : later.Dry := by
  obtain ⟨none, rfl, ends⟩ := read_ok took
  have empty : c.unread = [] := by
    rcases List.take_eq_nil_iff.1 none.symm with zero | empty
    · omega
    · exact empty
  exact ⟨by simp [empty], ends empty⟩

end GatedProxy.Connection
