import GatedProxy.Proofs.Server.Census
import GatedProxy.Proofs.Server.Sessions
import GatedProxy.Proofs.Server.Watch

namespace GatedProxy

namespace Slot

def isServed (slot : Slot) : Bool := slot.stage = .ended && slot.session.result?.isSome

-- There was no buffer for the session to read into, and it never came to a result.
def isBroken (slot : Slot) : Bool := slot.session.isOver && slot.session.result?.isNone

end Slot

namespace Session

variable {p : Policy} {s : Session}

theorem far_isOver (finished : s.isOver = true) (h : s.act p (.far who event) = some moved) :
    moved.1.isOver = true := by
  cases act_sound h with
  | farClient => exact finished
  | farUpstream held => exact (isOver_setUpstream s _).trans finished

end Session

theorem Stage.ended_permits (permitted : Stage.ended.permits a = true) :
    ∃ who event, a = .far who event := by
  cases a with
  | far who event => exact ⟨who, event, rfl⟩
  | _ => cases permitted

namespace Server

variable {p : Policy} {actions : List Action} {s : Server} {j : ServerJournal}

-- Whatever else goes on, the task of a connection can start, its session can do all that it could
-- do by itself, and the task ends only when its session is over.
def GoesOn (p : Policy) (s : Server) (which : Nat) (slot : Slot) : Prop :=
  match slot.stage with
  | .spawned => ∀ now, (s.act p (.start which now)).isSome = true
  | .running _ _ =>
    (∀ a moved, slot.session.act p a = some moved →
      s.act p (.session which a) = some (s.note which slot moved)) ∧
    (slot.session.isOver = true → (s.act p (.leave which)).isSome = true)
  | .ended => slot.session.isOver = true

-- A task that has ended has not left its session in the middle.
def Settled (s : Server) : Prop := ∀ slot ∈ s.slots, slot.stage = .ended → slot.session.isOver = true

theorem Settled.set (settled : Settled s) {changed : Slot}
    (ended : changed.stage = .ended → changed.session.isOver = true)
    (slots : t.slots = s.slots.set which changed) : Settled t := by
  intro slot member
  rw [slots] at member
  rcases List.mem_or_eq_of_mem_set member with old | rfl
  · exact settled slot old
  · exact ended

theorem Step.settled (step : Step p s a moved) (settled : Settled s) : Settled moved.1 := by
  cases step with
  | accept gate =>
    intro slot member ended
    rcases List.mem_append.1 member with old | new
    · exact settled slot old ended
    · cases List.mem_singleton.1 new
      cases ended
  | start held stage =>
    refine settled.set ?_ rfl
    intro ended
    cases ended
  | session held permitted moves =>
    rename_i which slot moved a
    refine settled.set ?_ rfl
    intro ended
    rw [show slot.stage = .ended from ended] at permitted
    obtain ⟨who, event, rfl⟩ := Stage.ended_permits permitted
    exact Session.far_isOver (settled slot (List.mem_of_getElem? held) ended) moves
  | leave held stage finished =>
    refine settled.set ?_ rfl
    intro _
    exact finished
  | _ => exact settled

theorem Ran.settled (ran : Ran p {} actions s j) : Settled s := by
  induction ran with
  | start =>
    intro slot member
    cases member
  | step path step ih => exact step.settled ih

theorem Settled.goesOn (settled : Settled s) (held : s.slots[which]? = some slot) :
    GoesOn p s which slot := by
  unfold GoesOn
  split
  · rename_i spawned
    intro now
    rw [act_complete (.start held spawned)]
    rfl
  · rename_i running
    constructor
    · intro a moved moves
      refine act_complete (.session held ?_ moves)
      rw [running]
      cases a <;> rfl
    · intro finished
      rw [act_complete (.leave held running finished)]
      rfl
  · rename_i ended
    exact settled slot (List.mem_of_getElem? held) ended

structure Shut (actions : List Action) (s : Server) : Prop where
  gate : .stop ∈ actions → s.gate ≠ .serving
  later : ∀ before later, actions = before ++ .stop :: later → accepted later = []

theorem Step.gate (step : Step p s a moved) (shut : s.gate ≠ .serving) :
    moved.1.gate ≠ .serving ∧ accepted [a] = [] := by
  cases step with
  | accept gate => exact absurd gate shut
  | acceptFails gate => exact absurd gate shut
  | start held stage => exact ⟨shut, rfl⟩
  | session held permitted moves => exact ⟨shut, rfl⟩
  | leave held stage finished => exact ⟨shut, rfl⟩
  | stop gate => exact absurd gate shut
  | waits gate looked => exact ⟨nofun, rfl⟩
  | returns gate looked => exact ⟨nofun, rfl⟩
  | tick => exact ⟨shut, rfl⟩

theorem Ran.shut (ran : Ran p {} actions s j) : Shut actions s := by
  induction ran with
  | start =>
    refine ⟨nofun, ?_⟩
    intro before later split
    simp at split
  | step path step ih =>
    rename_i actions s j a moved
    refine ⟨?_, ?_⟩
    · intro told
      rcases List.mem_append.1 told with before | now
      · exact (step.gate (ih.gate before)).1
      · cases List.mem_singleton.1 now
        cases step with
        | stop gate => exact nofun
    · intro before later split
      -- What was done last was done behind a shut gate, unless it was the stop itself.
      rcases List.eq_nil_or_concat later with rfl | ⟨middle, last, rfl⟩
      · rfl
      · rw [List.concat_eq_append, ← List.cons_append, ← List.append_assoc] at split
        obtain ⟨rest, same⟩ := List.append_inj' split rfl
        cases same
        have told : .stop ∈ actions := by simp [rest]
        rw [List.concat_eq_append, accepted_append, ih.later before middle rest,
          (step.gate (ih.gate told)).2]
        rfl

theorem Ran.unmanned (ran : Ran p {} (before ++ [.poll]) s j) (returned : s.gate = .returned) :
    s.running % UInt64.size = 0 := by
  have active := ran.active
  obtain ⟨t, journal, moved, path, step, rfl, rfl⟩ := ran.last
  have nobody : moved.1.presence.active = 0 := by
    cases step with
    | waits gate looked => cases returned
    | returns gate looked => exact Drain.poll_eq_none.1 looked
  rw [nobody] at active
  have counted := congrArg UInt64.toNat active
  rw [UInt64.toNat_ofNat'] at counted
  exact counted.symm

theorem marker_none (empty : s.running = 0) {slot : Slot} (member : slot ∈ s.slots) :
    slot.marker? = none := by
  have none := List.countP_eq_zero.1 empty slot member
  simpa using none

theorem Settled.served (settled : Settled s) (empty : s.running = 0) {slot : Slot}
    (member : slot ∈ s.slots) :
    slot.isServed = true ↔ slot.stage ≠ .spawned ∧ slot.isBroken = false := by
  have idle := marker_none empty member
  unfold Slot.marker? at idle
  split at idle
  · cases idle
  · rename_i spawned
    simp [Slot.isServed, spawned]
  · rename_i ended
    -- An ended task left its session over, so only its result can still be missing.
    have finished := settled slot member ended
    simp [Slot.isServed, Slot.isBroken, ended, finished, Option.isSome_iff_ne_none]

theorem running_of_served (served : ∀ slot ∈ s.slots, slot.isServed = true) : s.running = 0 := by
  apply List.countP_eq_zero.2
  intro slot member
  have ended := served slot member
  simp only [Slot.isServed, Bool.and_eq_true, decide_eq_true_eq] at ended
  simp [Slot.marker?, ended.1]

-- A shutdown takes in nobody and disturbs nobody. It loses a connection if the last look at the
-- active count comes before the first step of its task, and if its session breaks down.
theorem shutdown_exact (ran : Server.run p {} actions = some (s, j)) :
    s.slots.map Slot.peer = accepted actions ∧
    (∀ before later, actions = before ++ .stop :: later → accepted later = []) ∧
    (∀ (which : Nat) (slot : Slot), s.slots[which]? = some slot →
      Session.run p {} (own which actions) = some (slot.session, j.ofSession which) ∧
      GoesOn p s which slot) ∧
    ∀ before, actions = before ++ [.poll] → s.gate = .returned →
      (s.running < UInt64.size → ∀ slot ∈ s.slots,
        (slot.isServed = true ↔ slot.stage ≠ .spawned ∧ slot.isBroken = false)) ∧
      ((∀ slot ∈ s.slots, slot.isServed = true) ↔
        s.running < UInt64.size ∧
          ∀ slot ∈ s.slots, slot.stage ≠ .spawned ∧ slot.isBroken = false) := by
  have path := run_exact.1 ran
  have apart := path.apart
  have settled := path.settled
  refine ⟨apart.peers, path.shut.later, ?_, ?_⟩
  · intro which slot held
    exact ⟨Session.run_exact.2 (apart.alone which slot held), settled.goesOn held⟩
  · intro before split returned
    subst split
    have each (low : s.running < UInt64.size) (slot : Slot) (member : slot ∈ s.slots) :
        slot.isServed = true ↔ slot.stage ≠ .spawned ∧ slot.isBroken = false := by
      have empty := path.unmanned returned
      rw [Nat.mod_eq_of_lt low] at empty
      exact settled.served empty member
    refine ⟨each, ?_, ?_⟩
    · intro served
      have low : s.running < UInt64.size := by
        rw [running_of_served served]
        decide
      refine ⟨low, ?_⟩
      intro slot member
      exact (each low slot member).1 (served slot member)
    · rintro ⟨low, kept⟩ slot member
      exact (each low slot member).2 (kept slot member)

-- Two servers that return and have not served the one connection that they accepted: its task has
-- yet to start, or there is no buffer for its request.
theorem shutdown_loses :
    let peer : SocketAddress := ⟨.v4 ⟨192, 0, 2, 1⟩, 50000⟩
    let p : Policy := { credentials := .ofList [⟨"u".toList, "a".toList⟩] }
    let huge : Policy := { p with limits := { request := Limits.largest + 1 } }
    (∃ s j, Server.run p {} ([.accept peer, .stop] ++ [.poll]) = some (s, j) ∧
      s.gate = .returned ∧ ¬ ∀ slot ∈ s.slots, slot.isServed = true) ∧
    ∃ s j, Server.run huge {}
        ([.accept peer, .start 0 0, .session 0 .read, .leave 0, .stop] ++ [.poll]) = some (s, j) ∧
      s.gate = .returned ∧ ¬ ∀ slot ∈ s.slots, slot.isServed = true := by
  have lost {done : Option (Server × ServerJournal)}
      (h : done.any (fun done => done.1.gate = .returned ∧
        ¬ ∀ slot ∈ done.1.slots, slot.isServed = true) = true) :
      ∃ s j, done = some (s, j) ∧ s.gate = .returned ∧
        ¬ ∀ slot ∈ s.slots, slot.isServed = true := by
    obtain ⟨⟨s, j⟩, rfl, held⟩ := (Option.any_eq_true _ _).1 h
    exact ⟨s, j, rfl, of_decide_eq_true held⟩
  exact ⟨lost (by decide +kernel), lost (by decide +kernel)⟩

theorem shutdown_exact_client :
    let p : Policy := { credentials := .ofList [⟨"u".toList, "a".toList⟩] }
    let peer : SocketAddress := ⟨.v4 ⟨192, 0, 2, 1⟩, 50000⟩
    let before : List Action := [.accept peer, .start 0 0, .stop, .poll,
      .session 0 (.far .client .finish), .session 0 .read, .leave 0]
    ∃ s j, Server.run p {} (before ++ [.poll]) = some (s, j) ∧ s.gate = .returned ∧
      s.slots.map Slot.peer = [peer] ∧ ∀ slot ∈ s.slots, slot.isServed = true := by
  intro p peer before
  have possible : (Server.run p {} (before ++ [.poll])).isSome = true := by decide +kernel
  obtain ⟨⟨s, j⟩, ran⟩ := Option.isSome_iff_exists.1 possible
  have last : (Server.run p {} (before ++ [.poll])).any (fun done => done.1.gate = .returned ∧
      done.1.running < UInt64.size ∧
        ∀ slot ∈ done.1.slots, slot.stage ≠ .spawned ∧ slot.isBroken = false) = true := by
    decide +kernel
  rw [ran] at last
  obtain ⟨returned, kept⟩ := of_decide_eq_true last
  obtain ⟨peers, _, _, exact⟩ := shutdown_exact ran
  exact ⟨s, j, ran, returned, peers, (exact before rfl returned).2.2 kept⟩

end Server

end GatedProxy
