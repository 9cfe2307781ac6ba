import GatedProxy.Tunnel.Basic

namespace GatedProxy.Tunnel

-- Everything that one action of a tunnel can do, with the guard under which it does it.
inductive Step (room : Nat) (t : Tunnel) (ends : Ends) :
    Action → Tunnel × Ends × Journal → Prop where
  | unheld (loop : t.loop d = .reading) (large : Limits.largest < room) :
      Step room t ends (.copy d size) (t.setLoop d (.finished (some .unheld)), ends, [])
  | readFails (loop : t.loop d = .reading) (fits : ¬ Limits.largest < room)
      (took : (ends.get d.source).read room = some (.error e, c)) :
      Step room t ends (.copy d size) (t.setLoop d (.closing (some e)), ends, [])
  | readEnds (loop : t.loop d = .reading) (fits : ¬ Limits.largest < room)
      (took : (ends.get d.source).read room = some (.ok [], source)) :
      Step room t ends (.copy d size)
        (t.setLoop d (.closing none), ends.set d.source source, [.read d.source []])
  | reads (loop : t.loop d = .reading) (fits : ¬ Limits.largest < room)
      (took : (ends.get d.source).read room = some (.ok data, source)) (full : data ≠ []) :
      Step room t ends (.copy d size)
        (t.setLoop d (.writing data.length data), ends.set d.source source, [.read d.source data])
  | counts (loop : t.loop d = .writing total []) :
      Step room t ends (.copy d size)
        ({ t with counts := t.counts.add d (UInt64.ofNat total) }.setLoop d .reading, ends,
          [.counted d total])
  | writeFails (loop : t.loop d = .writing total left) (more : left ≠ [])
      (wrote : (ends.get d.sink).write left size = some (.error e)) :
      Step room t ends (.copy d size) (t.setLoop d (.closing (some e)), ends, [])
  | writes (loop : t.loop d = .writing total left) (more : left ≠ [])
      (wrote : (ends.get d.sink).write left size = some (.ok (accepted, rest))) :
      Step room t ends (.copy d size)
        (t.setLoop d (.writing total rest), ends, [.wrote d.sink accepted])
  | shutFails (loop : t.loop d = .closing result) (shut : (ends.get d.sink).shutdown = .error e) :
      Step room t ends (.copy d size)
        (t.setLoop d (.finished (result.map .system)), ends, [.log (.shutdownFailed d e)])
  | shuts (loop : t.loop d = .closing result) (shut : (ends.get d.sink).shutdown = .ok closed) :
      Step room t ends (.copy d size)
        (t.setLoop d (.finished (result.map .system)), ends.set d.sink closed,
          if (ends.get d.sink).endsAt closed then [.ended d.sink] else [])
  | settles (open_ : t.first = none) (loop : t.loop d = .finished result) :
      Step room t ends (.settle d) ({ t with first := some (d, result) }, ends, [])
  | abandons (first : t.first = some (d, result)) (waits : (t.loop d.other).waits = true) :
      Step room t ends .abandon (t.setLoop d.other .stopped, ends, [])

variable {t : Tunnel} {ends : Ends} {room : Nat}

theorem copy_sound (h : t.copy room ends d size = some moved) :
    Step room t ends (.copy d size) moved := by
  unfold copy at h
  split at h
  · rename_i loop
    split at h
    · rename_i large
      cases h
      exact .unheld loop large
    rename_i fits
    split at h
    · cases h
    · rename_i took
      cases h
      exact .readFails loop fits took
    · rename_i data source took
      cases h
      cases data with
      | nil => exact .readEnds loop fits took
      | cons b bytes => exact .reads loop fits took (List.cons_ne_nil b bytes)
  · rename_i loop
    cases h
    exact .counts loop
  · rename_i more loop
    split at h
    · cases h
    · rename_i wrote
      cases h
      exact .writeFails loop more wrote
    · rename_i wrote
      cases h
      exact .writes loop more wrote
  · rename_i loop
    dsimp only at h
    split at h
    · rename_i shut
      cases h
      exact .shutFails loop shut
    · rename_i shut
      cases h
      exact .shuts loop shut
  · cases h
  · cases h

theorem settle_sound (h : t.settle d = some later) :
    Step room t ends (.settle d) (later, ends, []) := by
  unfold settle at h
  split at h
  · rename_i open_ loop
    cases h
    exact .settles open_ loop
  · cases h

theorem abandon_sound (h : t.abandon = some later) :
    Step room t ends .abandon (later, ends, []) := by
  unfold abandon at h
  split at h
  · rename_i first
    split at h
    · rename_i waits
      cases h
      exact .abandons first waits
    · cases h
  · cases h

theorem act_sound (h : t.act room ends a = some moved) : Step room t ends a moved := by
  cases a with
  | copy d size => exact copy_sound h
  | settle d =>
    obtain ⟨later, settled, rfl⟩ := Option.map_eq_some_iff.1 h
    exact settle_sound settled
  | abandon =>
    obtain ⟨later, abandoned, rfl⟩ := Option.map_eq_some_iff.1 h
    exact abandon_sound abandoned

theorem act_complete (step : Step room t ends a moved) : t.act room ends a = some moved := by
  cases step with
  | unheld loop large => simp [act, copy, loop, large]
  | readFails loop fits took => simp [act, copy, loop, fits, took]
  | readEnds loop fits took => simp [act, copy, loop, fits, took]
  | reads loop fits took full => simp [act, copy, loop, fits, took, full]
  | counts loop => simp [act, copy, loop]
  | writeFails loop _ wrote => simp [act, copy, loop, wrote]
  | writes loop _ wrote => simp [act, copy, loop, wrote]
  | shutFails loop shut => simp [act, copy, loop, shut]
  | shuts loop shut => simp [act, copy, loop, shut]
  | settles open_ loop => simp [act, settle, open_, loop]
  | abandons first waits => simp [act, abandon, first, waits]

theorem act_exact : t.act room ends a = some moved ↔ Step room t ends a moved :=
  ⟨act_sound, act_complete⟩

end GatedProxy.Tunnel
