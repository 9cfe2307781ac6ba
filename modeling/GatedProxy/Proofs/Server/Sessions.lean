import GatedProxy.Proofs.Server.Step
import GatedProxy.Proofs.Session.Step

namespace GatedProxy

namespace ServerJournal

theorem ofSession_append (which : Nat) (j k : ServerJournal) :
    (j ++ k).ofSession which = j.ofSession which ++ k.ofSession which := List.filterMap_append

theorem ofSession_logs (which : Nat) (events : List LogEvent) :
    ServerJournal.ofSession which (events.map .log) = [] := by
  simp [ofSession]

theorem ofSession_session (which : Nat) (j : Journal) :
    ServerJournal.ofSession which (j.map (.session which)) = j := by
  rw [ofSession, List.filterMap_map]
  have own : (fun o : Occurrence => if which = which then some o else none) = some :=
    funext fun _ => if_pos rfl
  exact (congrArg (List.filterMap · j) own).trans List.filterMap_some

theorem ofSession_other {which other : Nat} (differ : other ≠ which) (j : Journal) :
    ServerJournal.ofSession which (j.map (.session other)) = [] := by
  simp [ofSession, differ]

end ServerJournal

namespace Server

def accepted (actions : List Action) : List SocketAddress :=
  actions.filterMap fun
    | .accept peer => some peer
    | _ => none

def own (which : Nat) (actions : List Action) : List Session.Action :=
  actions.filterMap fun
    | .session i a => if i = which then some a else none
    | _ => none

theorem own_append (which : Nat) (before later : List Action) :
    own which (before ++ later) = own which before ++ own which later := List.filterMap_append

theorem accepted_append (before later : List Action) :
    accepted (before ++ later) = accepted before ++ accepted later := List.filterMap_append

-- Every connection that was accepted has its slot, and its session is a run by itself, made of its
-- own actions alone.
structure Apart (p : Policy) (actions : List Action) (s : Server) (j : ServerJournal) : Prop where
  peers : s.slots.map Slot.peer = accepted actions
  alone : ∀ (which : Nat) (slot : Slot), s.slots[which]? = some slot →
    Session.Ran p {} (own which actions) slot.session (j.ofSession which)
  absent : ∀ which, s.slots.length ≤ which → own which actions = [] ∧ j.ofSession which = []

namespace Apart

variable {p : Policy} {actions : List Action} {s t : Server} {j more : ServerJournal}

theorem start (p : Policy) : Apart p [] {} [] := by
  refine ⟨rfl, ?_, fun _ _ => ⟨rfl, rfl⟩⟩
  intro which slot held
  cases held

theorem still (apart : Apart p actions s j) (unasked : ∀ which, own which [a] = [])
    (accepts : accepted [a] = []) (unheard : ∀ which, more.ofSession which = [])
    (peers : t.slots.map Slot.peer = s.slots.map Slot.peer)
    (sessions : ∀ (which : Nat) (slot : Slot), t.slots[which]? = some slot →
      ∃ before, s.slots[which]? = some before ∧ before.session = slot.session) :
    Apart p (actions ++ [a]) t (j ++ more) := by
  have same (which : Nat) : own which (actions ++ [a]) = own which actions ∧
      (j ++ more).ofSession which = j.ofSession which := by
    rw [own_append, unasked, ServerJournal.ofSession_append, unheard, List.append_nil,
      List.append_nil]
    exact ⟨rfl, rfl⟩
  refine ⟨?_, ?_, ?_⟩
  · rw [peers, apart.peers, accepted_append, accepts, List.append_nil]
  · intro which slot held
    obtain ⟨before, held, session⟩ := sessions which slot held
    rw [(same which).1, (same which).2, ← session]
    exact apart.alone which before held
  · intro which past
    have length : t.slots.length = s.slots.length := by
      simpa using congrArg List.length peers
    rw [(same which).1, (same which).2]
    exact apart.absent which (length ▸ past)

theorem staged (apart : Apart p actions s j) (held : s.slots[which]? = some slot) (stage : Stage)
    (unasked : ∀ which, own which [a] = []) (accepts : accepted [a] = [])
    (unheard : ∀ which, more.ofSession which = [])
    (slots : t.slots = s.slots.set which { slot with stage }) :
    Apart p (actions ++ [a]) t (j ++ more) := by
  obtain ⟨inside, _⟩ := List.getElem?_eq_some_iff.1 held
  refine apart.still unasked accepts unheard ?_ ?_
  · rw [slots]
    exact map_set_same held rfl
  · intro i other now
    rw [slots, List.getElem?_set] at now
    split at now
    · rename_i same
      cases same
      cases now
      exact ⟨slot, held, rfl⟩
    · exact ⟨other, now, rfl⟩

theorem accept (apart : Apart p actions s j) (peer : SocketAddress) :
    Apart p (actions ++ [.accept peer]) { s with slots := s.slots ++ [{ peer }] } (j ++ []) := by
  have same (which : Nat) : own which (actions ++ [.accept peer]) = own which actions := by
    rw [own_append]
    exact List.append_nil _
  rw [List.append_nil]
  refine ⟨?_, ?_, ?_⟩
  · rw [accepted_append, ← apart.peers]
    exact List.map_append
  · intro which slot held
    rw [same]
    rw [List.getElem?_append] at held
    split at held
    · exact apart.alone which slot held
    · rename_i past
      rw [List.getElem?_singleton] at held
      split at held
      · cases held
        obtain ⟨unasked, unheard⟩ := apart.absent which (Nat.le_of_not_lt past)
        rw [unasked, unheard]
        exact .start
      · cases held
  · intro which past
    rw [List.length_append] at past
    rw [same]
    exact apart.absent which (Nat.le_of_add_right_le past)

theorem session (apart : Apart p actions s j) (held : s.slots[which]? = some slot)
    (moves : slot.session.act p a = some moved) :
    Apart p (actions ++ [.session which a]) (s.note which slot moved).1
      (j ++ (s.note which slot moved).2) := by
  obtain ⟨inside, here⟩ := List.getElem?_eq_some_iff.1 held
  have one : own which [.session which a] = [a] := by simp [own]
  have none {i : Nat} (differ : which ≠ i) : own i [.session which a] = [] := by
    simp [own, differ]
  refine ⟨?_, ?_, ?_⟩
  · rw [accepted_append, ← apart.peers]
    have peers : (s.note which slot moved).1.slots.map Slot.peer = s.slots.map Slot.peer :=
      map_set_same held rfl
    rw [peers]
    exact (List.append_nil _).symm
  · intro i other now
    simp only [note] at now ⊢
    rw [own_append, ServerJournal.ofSession_append]
    rw [List.getElem?_set] at now
    split at now
    · rename_i same
      cases same
      cases now
      rw [one, ServerJournal.ofSession_session]
      exact .step (apart.alone which slot held) (Session.act_sound moves)
    · rename_i differ
      rw [none differ, ServerJournal.ofSession_other differ, List.append_nil, List.append_nil]
      exact apart.alone i other now
  · intro i past
    have differ : which ≠ i := by
      rintro rfl
      simp only [note, List.length_set] at past
      omega
    simp only [note, List.length_set] at past ⊢
    rw [own_append, ServerJournal.ofSession_append, none differ,
      ServerJournal.ofSession_other differ, List.append_nil, List.append_nil]
    exact apart.absent i past

theorem step (apart : Apart p actions s j) (step : Step p s a moved) :
    Apart p (actions ++ [a]) moved.1 (j ++ moved.2) := by
  have kept (which : Nat) (slot : Slot) (held : s.slots[which]? = some slot) :
      ∃ before, s.slots[which]? = some before ∧ before.session = slot.session :=
    ⟨slot, held, rfl⟩
  cases step with
  | accept gate => exact apart.accept _
  | acceptFails gate => exact apart.still (fun _ => rfl) rfl (fun _ => rfl) rfl kept
  | start held stage => exact apart.staged held _ (fun _ => rfl) rfl (fun _ => rfl) rfl
  | session held permitted moves => exact apart.session held moves
  | leave held stage finished =>
    rename_i which slot marker label
    have quiet (i : Nat) : ServerJournal.ofSession i (slot.session.result?.toList.map
        fun result => .log (.ended slot.peer label result)) = [] := by
      simp [ServerJournal.ofSession]
    exact apart.staged held _ (fun _ => rfl) rfl quiet rfl
  | stop gate => exact apart.still (fun _ => rfl) rfl (fun _ => rfl) rfl kept
  | waits gate looked =>
    exact apart.still (fun _ => rfl) rfl (fun i => ServerJournal.ofSession_logs i _) rfl kept
  | returns gate looked => exact apart.still (fun _ => rfl) rfl (fun _ => rfl) rfl kept
  | tick => exact apart.still (fun _ => rfl) rfl (fun i => ServerJournal.ofSession_logs i _) rfl kept

end Apart

theorem Ran.apart {p : Policy} {s : Server} (ran : Ran p {} actions s j) :
    Apart p actions s j := by
  induction ran with
  | start => exact .start p
  | step path step ih => exact ih.step step

end Server

end GatedProxy
