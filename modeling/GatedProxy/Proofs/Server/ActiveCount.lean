import GatedProxy.Proofs.Server.Isolation

namespace GatedProxy

def Slot.leaves (slot : Slot) : Nat :=
  match slot.stage with
  | .ended => 1
  | .spawned | .running _ _ => 0

theorem Slot.leaves_le_starts (slot : Slot) : slot.leaves ≤ slot.starts ∧ slot.starts ≤ 1 := by
  unfold leaves starts
  cases slot.stage <;> simp

theorem Slot.isRunning_exact (slot : Slot) :
    slot.marker?.isSome = true ↔ slot.starts ≠ slot.leaves := by
  unfold marker? starts leaves
  cases slot.stage <;> simp

namespace Server

variable {p : Policy} {actions : List Action} {s : Server} {j : ServerJournal}

def leavings (which : Nat) (actions : List Action) : Nat :=
  actions.countP fun
    | .leave i => i = which
    | _ => false

def atWork (actions : List Action) : Nat :=
  (List.range (accepted actions).length).countP fun which =>
    startings which actions ≠ leavings which actions

theorem leavings_append (which : Nat) (before later : List Action) :
    leavings which (before ++ later) = leavings which before + leavings which later :=
  List.countP_append

theorem Step.leavings (step : Step p s a moved) (i : Nat) :
    moved.1.shown Slot.leaves i = s.shown Slot.leaves i + leavings i [a] := by
  cases step with
  | accept gate => exact shown_accept rfl i
  | start held stage =>
    refine shown_set held rfl ?_ i
    simp [Slot.leaves, stage]
  | session held permitted moves =>
    rename_i which slot moved a
    have same : ({ slot with session := moved.1 } : Slot).leaves = slot.leaves := rfl
    exact shown_set held rfl same i
  | leave held stage finished =>
    rename_i which slot marker label
    obtain ⟨inside, _⟩ := List.getElem?_eq_some_iff.1 held
    by_cases same : which = i
    · subst same
      have before : s.shown Slot.leaves which = slot.leaves := shown_held held
      rw [before]
      simp [shown, Server.leavings, inside, Slot.leaves, stage]
    · simp [shown, Server.leavings, same, List.getElem?_set_ne same]
  | _ => rfl

theorem Ran.leavings (ran : Ran p {} actions s j) (which : Nat) :
    leavings which actions = s.shown Slot.leaves which := by
  induction ran with
  | start => rfl
  | step path step ih => rw [leavings_append, ih, step.leavings]

theorem Ran.once (ran : Ran p {} actions s j) (which : Nat) :
    Server.leavings which actions ≤ startings which actions ∧ startings which actions ≤ 1 := by
  rw [ran.leavings, ran.starts]
  cases held : s.slots[which]? with
  | none => simp [shown, Server.starts, held]
  | some slot =>
    have started : s.starts which = slot.starts := shown_held held
    rw [shown_held held, started]
    exact slot.leaves_le_starts

theorem Ran.running_exact (ran : Ran p {} actions s j) : s.running = atWork actions := by
  have length : s.slots.length = (accepted actions).length := by
    simpa using congrArg List.length ran.apart.peers
  rw [running, countP_places, length, atWork]
  apply List.countP_congr
  intro which inside
  obtain ⟨slot, held⟩ : ∃ slot, s.slots[which]? = some slot := by
    rw [List.mem_range, ← length] at inside
    exact ⟨_, List.getElem?_eq_getElem inside⟩
  have started : startings which actions = slot.starts := by
    rw [ran.starts]
    exact shown_held held
  have left : Server.leavings which actions = slot.leaves := by
    rw [ran.leavings, shown_held held]
  rw [started, left, held]
  simpa using slot.isRunning_exact

def Action.countsTo (active : UInt64) : Action → UInt64
  | .start _ _ => active + 1
  | .leave _ => active - 1
  | _ => active

theorem Step.active (step : Step p s a moved) (manned : Manned s.posts s.presence) :
    moved.1.presence.active = a.countsTo s.presence.active := by
  cases step with
  | leave held stage finished =>
    rename_i which slot marker label
    have running := posts_of_slot held
    simp only [Slot.marker?, stage] at running
    simp [Presence.run_departure (manned.held which marker running), Action.countsTo]
  | _ => rfl

theorem Ran.atWork_pos {which : Nat} {slot : Slot} (ran : Ran p {} actions s j)
    (held : s.slots[which]? = some slot) (stage : slot.stage = .running marker label) :
    0 < atWork actions := by
  rw [← ran.running_exact]
  exact List.countP_pos_iff.2 ⟨slot, List.mem_of_getElem? held, by simp [Slot.marker?, stage]⟩

-- The active count is the number of markers that are held, and in a server the number of tasks at
-- work: each of them is counted once, however its session ends. A count of 64 bits can say so of
-- fewer than 2^64 markers.
theorem active_count_exact :
    (∀ actions : List Presence.Action,
      let p := ({} : Presence).run actions
      p.active = UInt64.ofNat (Presence.heldAfter actions) ∧
      (p.active.toNat = Presence.heldAfter actions ↔ Presence.heldAfter actions < UInt64.size) ∧
      (p.act .enter).active = p.active + 1 ∧
      ∀ a which, Presence.Action.which? a = some which →
        if Presence.isHeldAfter actions which then
          0 < Presence.heldAfter actions ∧ (p.act a).active + 1 = p.active
        else (p.act a).active = p.active) ∧
    ∀ (p : Policy) (actions : List Action) (s : Server) (j : ServerJournal),
      Server.run p {} actions = some (s, j) →
        s.presence.active = UInt64.ofNat (atWork actions) ∧
        (s.presence.active.toNat = atWork actions ↔ atWork actions < UInt64.size) ∧
        (∀ which, Server.leavings which actions ≤ startings which actions ∧
          startings which actions ≤ 1) ∧
        (∀ a moved, s.act p a = some moved →
          moved.1.presence.active = a.countsTo s.presence.active) ∧
        ∀ (which : Nat) (slot : Slot) (marker : Nat) (label : Text), s.slots[which]? = some slot →
          slot.stage = .running marker label → slot.session.isOver = true →
            0 < atWork actions ∧ ∃ t, s.act p (.leave which) = some (t,
              slot.session.result?.toList.map fun result => .log (.ended slot.peer label result)) := by
  refine ⟨?_, ?_⟩
  · intro actions p
    have active : p.active = _ := Presence.active_heldAfter actions
    refine ⟨active, ?_, rfl, ?_⟩
    · rw [active]
      exact Presence.toNat_ofNat_exact _
    · intro a which named
      have lowered := Presence.act_active p named
      have known := Presence.held_exact actions which
      split
      · rename_i held
        rw [if_pos (known.2 held)] at lowered
        refine ⟨?_, by rw [lowered, UInt64.sub_add_cancel]⟩
        rw [← Presence.count_held]
        exact List.count_pos_iff.2 (List.mem_of_getElem? (known.2 held))
      · rename_i free
        rw [if_neg (mt known.1 free)] at lowered
        exact lowered
  · intro p actions s j ran
    have path := run_exact.1 ran
    have active := path.active
    rw [path.running_exact] at active
    refine ⟨active, ?_, path.once, ?_, ?_⟩
    · rw [active]
      exact Presence.toNat_ofNat_exact _
    · intro a moved acted
      exact (act_sound acted).active path.manned
    · intro which slot marker label held stage finished
      exact ⟨path.atWork_pos held stage, _, act_complete (.leave held stage finished)⟩

theorem active_count_exact_partings :
    let history : List Presence.Action := [.enter, .release 0, .enter, .release 0, .drop 0]
    let p : Policy := { credentials := .ofList [⟨"u".toList, "a".toList⟩] }
    let peer (port : UInt16) : SocketAddress := ⟨.v4 ⟨192, 0, 2, 1⟩, port⟩
    let actions : List Action := [.accept (peer 50000), .accept (peer 50001), .accept (peer 50002),
      .start 1 0, .start 0 0, .session 0 (.far .client (.fault .recv (.os 104))), .session 0 .read,
      .session 1 (.far .client .finish), .session 1 .read, .leave 0]
    (({} : Presence).run history).active.toNat = 1 ∧
    ((({} : Presence).run history).act (.release 0)).active = 1 ∧
    ∃ s j, Server.run p {} actions = some (s, j) ∧ s.presence.active.toNat = 1 ∧
      ∃ t events, s.act p (.leave 1) = some (t, events) ∧ t.presence.active = 0 := by
  intro history p peer actions
  obtain ⟨markers, servers⟩ := active_count_exact
  obtain ⟨active, exact, _, lowers⟩ := markers history
  have one : Presence.heldAfter history = 1 := by decide
  have free : Presence.isHeldAfter history 0 = false := by decide
  have again := lowers (.release 0) 0 rfl
  rw [if_neg (by simp [free])] at again
  refine ⟨?_, ?_, ?_⟩
  · rw [← one]
    exact exact.2 (by rw [one]; decide)
  · rw [again, active, one]
    rfl
  · have last : (Server.run p {} actions).any (fun done =>
        (done.1.slots[1]?.any fun slot =>
          slot.stage = .running 0 (SessionId.render 0 1) ∧ slot.session.isOver) = true) = true := by
      decide +kernel
    obtain ⟨⟨s, j⟩, ran, held⟩ := (Option.any_eq_true _ _).1 last
    obtain ⟨slot, there, waits⟩ := (Option.any_eq_true _ _).1 (of_decide_eq_true held)
    obtain ⟨stage, finished⟩ := of_decide_eq_true waits
    obtain ⟨count, fits, _, counts, ends⟩ := servers p actions s j ran
    have working : atWork actions = 1 := by decide
    obtain ⟨_, t, left⟩ := ends 1 slot 0 _ there stage finished
    refine ⟨s, j, ran, ?_, t, _, left, ?_⟩
    · rw [← working]
      exact fits.2 (by rw [working]; decide)
    · have lowered : t.presence.active = s.presence.active - 1 := counts _ _ left
      rw [lowered, count, working]
      rfl

end Server

end GatedProxy
