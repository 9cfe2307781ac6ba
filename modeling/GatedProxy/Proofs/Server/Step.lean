import GatedProxy.Proofs.Run
import GatedProxy.Server.Basic

namespace GatedProxy.Server

def departure (marker : Nat) (result : Option SessionResult) : List Presence.Action :=
  result.toList.map (fun _ => Presence.Action.release marker) ++ [.drop marker]

-- Everything that one action of a server can do, with the guard under which it does it.
inductive Step (p : Policy) (s : Server) : Action → Server × ServerJournal → Prop where
  | accept (gate : s.gate = .serving) :
      Step p s (.accept peer) ({ s with slots := s.slots ++ [{ peer }] }, [])
  | acceptFails (gate : s.gate = .serving) :
      Step p s (.acceptFails e) (s, [.log (.acceptFailed e)])
  | start (held : s.slots[which]? = some slot) (stage : slot.stage = .spawned) :
      Step p s (.start which now)
        ({ s with
          slots := s.slots.set which { slot with
            stage := .running s.presence.markers.length (SessionId.render now s.sequence) }
          presence := s.presence.act .enter
          sequence := s.sequence + 1 },
          [.log (.connected slot.peer (SessionId.render now s.sequence))])
  | session (held : s.slots[which]? = some slot) (permitted : slot.stage.permits a = true)
      (moves : slot.session.act p a = some moved) :
      Step p s (.session which a) (s.note which slot moved)
  | leave (held : s.slots[which]? = some slot) (stage : slot.stage = .running marker label)
      (finished : slot.session.isOver = true) :
      Step p s (.leave which)
        ({ s with
          slots := s.slots.set which { slot with stage := .ended }
          presence := s.presence.run (departure marker slot.session.result?) },
          slot.session.result?.toList.map fun result => .log (.ended slot.peer label result))
  | stop (gate : s.gate = .serving) :
      Step p s .stop ({ s with gate := .draining {} }, [.log .stopping])
  | waits (gate : s.gate = .draining d) (looked : d.poll s.presence.active = some (later, event)) :
      Step p s .poll ({ s with gate := .draining later }, event.toList.map .log)
  | returns (gate : s.gate = .draining d) (looked : d.poll s.presence.active = none) :
      Step p s .poll ({ s with gate := .returned }, [])
  | tick : Step p s .tick s.tick

variable {p : Policy} {s : Server}

theorem isServing_iff : s.isServing = true ↔ s.gate = .serving := decide_eq_true_iff

theorem start_sound (h : s.start which now = some moved) : Step p s (.start which now) moved := by
  unfold start at h
  split at h
  · rename_i held
    cases h
    exact .start held rfl
  · cases h

theorem session_sound (h : s.session p which a = some moved) :
    Step p s (.session which a) moved := by
  unfold Server.session at h
  split at h
  · cases h
  · rename_i held
    split at h
    · rename_i permitted
      obtain ⟨later, moves, rfl⟩ := Option.map_eq_some_iff.1 h
      exact .session held permitted moves
    · cases h

theorem leave_sound (h : s.leave which = some moved) : Step p s (.leave which) moved := by
  unfold leave at h
  split at h
  · rename_i held
    split at h
    · rename_i finished
      cases h
      exact .leave held rfl finished
    · cases h
  · cases h

theorem poll_sound (h : s.poll = some moved) : Step p s .poll moved := by
  unfold poll at h
  split at h
  · rename_i gate
    split at h
    · rename_i looked
      cases h
      exact .returns gate looked
    · rename_i looked
      cases h
      exact .waits gate looked
  · cases h
  · cases h

theorem act_sound (h : s.act p a = some moved) : Step p s a moved := by
  cases a with
  | accept peer =>
    simp only [act] at h
    split at h
    · rename_i serving
      cases h
      exact .accept (isServing_iff.1 serving)
    · cases h
  | acceptFails e =>
    simp only [act] at h
    split at h
    · rename_i serving
      cases h
      exact .acceptFails (isServing_iff.1 serving)
    · cases h
  | start which now => exact start_sound h
  | session which a => exact session_sound h
  | leave which => exact leave_sound h
  | stop =>
    simp only [act] at h
    split at h
    · rename_i serving
      cases h
      exact .stop (isServing_iff.1 serving)
    · cases h
  | poll => exact poll_sound h
  | tick =>
    cases h
    exact .tick

theorem act_complete (step : Step p s a moved) : s.act p a = some moved := by
  cases step with
  | accept gate => simp [act, isServing, gate]
  | acceptFails gate => simp [act, isServing, gate]
  | start held stage =>
    rename_i slot now
    cases slot
    cases stage
    simp [act, start, held]
  | session held permitted moves => simp [act, Server.session, held, permitted, moves]
  | leave held stage finished =>
    rename_i slot marker label
    cases slot
    cases stage
    simp [act, leave, held, finished, departure]
  | stop gate => simp [act, isServing, gate]
  | waits gate looked => simp [act, poll, gate, looked]
  | returns gate looked => simp [act, poll, gate, looked]
  | tick => rfl

theorem act_exact : s.act p a = some moved ↔ Step p s a moved := ⟨act_sound, act_complete⟩

theorem map_set_same {slots : List Slot} {which : Nat} (held : slots[which]? = some slot)
    {view : Slot → View} (same : view changed = view slot) :
    (slots.set which changed).map view = slots.map view := by
  obtain ⟨inside, here⟩ := List.getElem?_eq_some_iff.1 held
  have bound : which < (slots.map view).length := by simpa using inside
  have there : (slots.map view)[which] = view slot := by simp [here]
  rw [List.map_set, same, ← there]
  exact List.set_getElem_self bound

abbrev Ran (p : Policy) : Server → List Action → Server → ServerJournal → Prop :=
  GatedProxy.Ran (Step p)

theorem runs (p : Policy) : Runs (act p) (run p) := ⟨fun _ => rfl, fun _ _ _ => rfl⟩

theorem run_exact {t : Server} :
    s.run p actions = some (t, journal) ↔ Ran p s actions t journal := (runs p).exact act_exact

end GatedProxy.Server
