import GatedProxy.Proofs.Server.Shutdown
import GatedProxy.Proofs.Session.Provenance

namespace GatedProxy

def Slot.starts (slot : Slot) : Nat :=
  match slot.stage with
  | .spawned => 0
  | .running _ _ | .ended => 1

namespace Server

variable {p : Policy} {actions : List Action} {s : Server} {j : ServerJournal}

def startings (which : Nat) (actions : List Action) : Nat :=
  actions.countP fun
    | .start i _ => i = which
    | _ => false

theorem startings_append (which : Nat) (before later : List Action) :
    startings which (before ++ later) = startings which before + startings which later :=
  List.countP_append

-- What a slot shows of its task; of a task that nobody has spawned nothing is shown.
def shown (view : Slot → Nat) (s : Server) (which : Nat) : Nat :=
  (s.slots[which]?.map view).getD 0

def starts (s : Server) (which : Nat) : Nat := s.shown Slot.starts which

theorem shown_held {view : Slot → Nat} (held : s.slots[which]? = some slot) :
    s.shown view which = view slot := by
  simp [shown, held]

theorem shown_set {t : Server} {view : Slot → Nat} (held : s.slots[which]? = some slot)
    (slots : t.slots = s.slots.set which changed) (same : view changed = view slot) (i : Nat) :
    t.shown view i = s.shown view i := by
  unfold shown
  rw [← List.getElem?_map, ← List.getElem?_map, slots, map_set_same held same]

theorem shown_accept {view : Slot → Nat} (fresh : view { peer } = 0) (i : Nat) :
    shown view { s with slots := s.slots ++ [{ peer }] } i = s.shown view i := by
  simp only [shown]
  rw [List.getElem?_append]
  split
  · rfl
  · rename_i past
    rw [List.getElem?_eq_none (Nat.le_of_not_lt past), List.getElem?_singleton]
    split
    · exact fresh
    · rfl

theorem Step.starts (step : Step p s a moved) (i : Nat) :
    moved.1.starts i = s.starts i + startings i [a] := by
  cases step with
  | accept gate => exact shown_accept rfl i
  | start held stage =>
    rename_i which slot now
    obtain ⟨inside, _⟩ := List.getElem?_eq_some_iff.1 held
    by_cases same : which = i
    · subst same
      have before : s.starts which = slot.starts := shown_held held
      rw [before]
      simp [Server.starts, shown, startings, inside, Slot.starts, stage]
    · simp [Server.starts, shown, startings, same, List.getElem?_set_ne same]
  | session held permitted moves =>
    rename_i which slot moved a
    have same : ({ slot with session := moved.1 } : Slot).starts = slot.starts := rfl
    exact shown_set held rfl same i
  | leave held stage finished =>
    rename_i which slot marker label
    have same : ({ slot with stage := .ended } : Slot).starts = slot.starts := by
      simp [Slot.starts, stage]
    exact shown_set held rfl same i
  | _ => rfl

theorem Ran.starts (ran : Ran p {} actions s j) (which : Nat) :
    startings which actions = s.starts which := by
  induction ran with
  | start => rfl
  | step path step ih => rw [startings_append, ih, step.starts]

theorem Step.serving (step : Step p s a moved) (gate : s.gate = .serving) (other : a ≠ .stop) :
    moved.1.gate = .serving := by
  cases step with
  | stop => exact absurd rfl other
  | waits draining => cases gate.symm.trans draining
  | returns draining => cases gate.symm.trans draining
  | _ => exact gate

theorem Ran.serving (ran : Ran p {} actions s j) (untold : .stop ∉ actions) :
    s.gate = .serving := by
  induction ran with
  | start => rfl
  | step path step ih =>
    rw [List.mem_append, List.mem_singleton, not_or] at untold
    exact step.serving (ih untold.1) (Ne.symm untold.2)

theorem Apart.heard (apart : Apart p actions s j) (which : Nat) :
    (Session.run p {} (own which actions)).map Prod.snd = some (j.ofSession which) := by
  rcases Nat.lt_or_ge which s.slots.length with inside | past
  · have alone := apart.alone which _ (List.getElem?_eq_getElem inside)
    rw [Session.run_exact.2 alone]
    rfl
  · obtain ⟨unasked, unheard⟩ := apart.absent which past
    rw [unasked, unheard]
    rfl

-- A session in its slot is a session by itself, and what it does depends on nothing else.
theorem sessions_isolated (ran : Server.run p {} actions = some (s, j)) :
    s.slots.map Slot.peer = accepted actions ∧
    (∀ which, startings which actions = s.starts which) ∧
    (.stop ∉ actions →
      (∀ peer, s.act p (.accept peer) = some ({ s with slots := s.slots ++ [{ peer }] }, [])) ∧
      ∀ e, s.act p (.acceptFails e) = some (s, [.log (.acceptFailed e)])) ∧
    (∀ (which : Nat) (slot : Slot), s.slots[which]? = some slot →
      Session.run p {} (own which actions) = some (slot.session, j.ofSession which) ∧
      GoesOn p s which slot ∧
      (j.ofSession which).received .upstream <:+: (j.ofSession which).sent .client ∧
      Served ((j.ofSession which).received .client) ((j.ofSession which).sent .upstream)) ∧
    (∀ which, s.slots.length ≤ which → own which actions = [] ∧ j.ofSession which = []) ∧
    ∀ (others : List Action) (t : Server) (k : ServerJournal),
      Server.run p {} others = some (t, k) → ∀ which, own which others = own which actions →
        k.ofSession which = j.ofSession which := by
  have path := run_exact.1 ran
  have apart := path.apart
  refine ⟨apart.peers, path.starts, ?_, ?_, apart.absent, ?_⟩
  · intro untold
    have gate := path.serving untold
    exact ⟨fun peer => act_complete (.accept gate), fun e => act_complete (.acceptFails gate)⟩
  · intro which slot held
    have alone := apart.alone which slot held
    obtain ⟨forwarded, served⟩ := Session.Ran.provenance alone
    exact ⟨Session.run_exact.2 alone, path.settled.goesOn held, forwarded, served⟩
  · intro others t k went which same
    have other := (run_exact.1 went).apart.heard which
    rw [same, apart.heard which] at other
    exact (Option.some.inj other).symm

theorem sessions_isolated_pair :
    let p : Policy := { credentials := .ofList [⟨"u".toList, "a".toList⟩] }
    let peer (port : UInt16) : SocketAddress := ⟨.v4 ⟨192, 0, 2, 1⟩, port⟩
    let plain := Text.utf8 "GET / HTTP/1.1\r\n\r\n".toList
    let tunnel := Text.utf8
      "CONNECT 1.2.3.4:80\r\nproxy-authorization: Basic dTph\r\n\r\n".toList
    let actions : List Action := [.accept (peer 50000), .acceptFails (.os 24), .accept (peer 50001),
      .start 1 0, .session 0 (.far .client (.send plain)), .session 1 (.far .client (.send tunnel)),
      .session 1 .read, .start 0 0, .session 1 (.dialed (.ok [1, 2])), .session 0 .read,
      .session 1 (.write 39), .session 1 (.write 0), .session 0 (.write 307), .session 0 (.write 0),
      .leave 0, .session 1 (.tunnel (.copy .down 0)), .session 1 (.tunnel (.copy .down 2))]
    ∃ s j, Server.run p {} actions = some (s, j) ∧
      s.slots.map Slot.peer = [peer 50000, peer 50001] ∧ startings 0 actions = s.starts 0 ∧
      (∃ slot, s.slots[1]? = some slot ∧
        Session.run p {} (own 1 actions) = some (slot.session, j.ofSession 1)) ∧
      (j.ofSession 0).received .client = Response.bytes (Response.challenge .required) ∧
      (j.ofSession 1).received .client = Response.bytes Response.established ++ [1, 2] ∧
      (s.act p (.accept (peer 50002))).isSome = true := by
  intro p peer plain tunnel actions
  have last : (Server.run p {} actions).any (fun done => done.1.slots.length = 2 ∧
      (done.2.ofSession 0).received .client = Response.bytes (Response.challenge .required) ∧
      (done.2.ofSession 1).received .client = Response.bytes Response.established ++ [1, 2]) =
      true := by decide +kernel
  obtain ⟨⟨s, j⟩, ran, held⟩ := (Option.any_eq_true _ _).1 last
  obtain ⟨two, asked, given⟩ := of_decide_eq_true held
  obtain ⟨peers, starts, serving, alone, _⟩ := sessions_isolated ran
  have inside : 1 < s.slots.length := by
    rw [show s.slots.length = 2 from two]
    decide
  have there := List.getElem?_eq_getElem inside
  refine ⟨s, j, ran, peers, starts 0, ⟨_, there, (alone 1 _ there).1⟩, asked, given, ?_⟩
  rw [(serving (by simp [actions])).1]
  rfl

end Server

end GatedProxy
