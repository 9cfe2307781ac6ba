import GatedProxy.Session.Basic
import GatedProxy.Tunnel.Work

namespace GatedProxy

namespace Session

-- How far a session is from its end. `work` bounds what it can still do at one rank.
def rank (s : Session) : Nat :=
  match s.phase with
  | .awaitingRequest => 7
  | .dialing _ _ .lookingUp => 6
  | .dialing _ _ (.trying _ _) => 5
  | .joined _ _ (.establishing _) | .joined _ _ (.sendingRequest _) => 4
  | .joined _ _ (.tunneling _) | .joined _ _ .awaitingReply => 3
  | .joined _ _ (.sendingReply _ _) => 2
  | .answering _ _ => 1
  | .over _ _ => 0

def work (s : Session) : Nat :=
  match s.phase with
  | .dialing _ _ (.trying _ others) => others.length
  | .joined _ _ (.establishing left) | .joined _ _ (.sendingRequest left)
  | .joined _ _ (.sendingReply _ left) | .answering left _ => left.length
  | .joined upstream _ (.tunneling t) => t.work ⟨s.client, upstream⟩
  | .awaitingRequest | .dialing _ _ .lookingUp | .joined _ _ .awaitingReply | .over _ _ => 0

def Nearer (s t : Session) : Prop := s.rank < t.rank ∨ s.rank = t.rank ∧ s.work < t.work

theorem rank_endWith (client : Connection) (upstream : Option Connection)
    (r : Option SessionResult) : (endWith client upstream r).1.rank = 0 := by
  cases upstream <;> rfl

theorem rank_finish (client : Connection) (upstream : Option Connection) (r : SessionResult) :
    (finish client upstream r).1.rank = 0 := rank_endWith client upstream (some r)

theorem rank_dialTo_le (client : Connection) (dest : Authority) (errand : Errand)
    (progress : Dial.Progress) : (dialTo client dest errand progress).1.rank ≤ 6 := by
  cases progress with
  | failed e => exact Nat.zero_le _
  | waiting question => cases question <;> simp [dialTo, rank]
  | opened waiting => cases errand <;> simp [dialTo, rank]

theorem rank_receive_le (p : Policy) (client : Connection) (raw : Bytes) :
    (receive p client raw).1.rank ≤ 6 := by
  unfold receive
  split
  · exact Nat.zero_le _
  · dsimp only [after]
    split
    · exact Nat.zero_le _
    · simp [rank]
    · exact rank_dialTo_le _ _ _ _

theorem nearer_read {p : Policy} {s t : Session} (h : s.read p = some (t, journal)) :
    t.Nearer s := by
  unfold read at h
  split at h
  · rename_i phase
    have bound : t.rank ≤ 6 := by
      split at h
      · cases h
        exact Nat.zero_le _
      · obtain ⟨⟨result, client⟩, _, equal⟩ := Option.map_eq_some_iff.1 h
        cases result with
        | error e => cases equal; exact Nat.zero_le _
        | ok raw => cases equal; exact rank_receive_le _ _ _
    have start : s.rank = 7 := by simp [rank, phase]
    exact .inl (by omega)
  · rename_i phase
    have bound : t.rank ≤ 2 := by
      split at h
      · cases h
        exact Nat.zero_le _
      · obtain ⟨⟨result, upstream⟩, _, equal⟩ := Option.map_eq_some_iff.1 h
        cases result with
        | error e => cases equal; exact Nat.zero_le _
        | ok data => cases equal; exact Nat.le_refl _
    have waiting : s.rank = 3 := by simp [rank, phase]
    exact .inl (by omega)
  · cases h

theorem nearer_written {s t : Session} (h : s.written = some (t, journal)) : t.Nearer s := by
  unfold written at h
  split at h
  · rename_i phase
    cases h
    exact .inl (by simp [rank, phase, finish, endWith])
  · rename_i phase
    cases h
    exact .inl (by simp [rank, phase])
  · rename_i phase
    cases h
    exact .inl (by simp [rank, phase])
  · rename_i phase
    cases h
    exact .inl (by simp [rank, phase, finish, endWith])
  · cases h

theorem nearer_setPending {s : Session} (pending : s.pending? = some (who, c, left))
    (shorter : rest.length < left.length) : (s.setPending rest).Nearer s := by
  unfold pending? at pending
  split at pending <;> cases pending <;> rename_i phase <;>
    exact .inr (by simp [setPending, rank, work, phase, shorter])

theorem nearer_write {s t : Session} (h : s.write size = some (t, journal)) : t.Nearer s := by
  unfold write at h
  split at h
  · cases h
  · exact nearer_written h
  · rename_i who c left _ pending
    obtain ⟨result, wrote, equal⟩ := Option.map_eq_some_iff.1 h
    cases result with
    | error e =>
      have same : _ = t := congrArg Prod.fst equal
      refine .inl ?_
      rw [← same, rank_finish]
      unfold pending? at pending
      split at pending <;> cases pending <;> rename_i phase <;> simp [rank, phase]
    | ok parts =>
      cases equal
      exact nearer_setPending pending (Connection.left_of_write wrote)

theorem nearer_lookedUp {s : Session} (phase : s.phase = .dialing dest errand .lookingUp)
    (answer : Except SystemError (List IpAddress)) :
    (dialTo s.client dest errand (Dial.lookedUp answer)).1.Nearer s := by
  refine .inl ?_
  cases answer with
  | error e => simp [Dial.lookedUp, dialTo, finish, endWith, rank, phase]
  | ok ips => cases ips <;> simp [Dial.lookedUp, Dial.next, dialTo, finish, endWith, rank, phase]

theorem nearer_tried {s : Session} (phase : s.phase = .dialing dest errand (.trying ip others))
    (answer : Except SystemError Bytes) :
    (dialTo s.client dest errand (Dial.tried others answer)).1.Nearer s := by
  cases answer with
  | ok waiting => cases errand <;> exact .inl (by simp [Dial.tried, dialTo, rank, phase])
  | error e =>
    cases others with
    | nil => exact .inl (by simp [Dial.tried, Dial.next, dialTo, finish, endWith, rank, phase])
    | cons ip' rest => exact .inr (by simp [Dial.tried, Dial.next, dialTo, rank, work, phase])

def Action.isFar : Action → Bool
  | .far _ _ => true
  | _ => false

theorem nearer_act {p : Policy} {s t : Session} {a : Action} (own : a.isFar = false)
    (h : s.act p a = some (t, journal)) : t.Nearer s := by
  cases a with
  | far who event => cases own
  | read => exact nearer_read h
  | write size => exact nearer_write h
  | resolved answer =>
    simp only [act] at h
    split at h
    · rename_i phase
      have equal : _ = t := congrArg Prod.fst (Option.some.inj h)
      exact equal ▸ nearer_lookedUp phase answer
    · cases h
  | dialed answer =>
    simp only [act] at h
    split at h
    · rename_i phase
      have equal : _ = t := congrArg Prod.fst (Option.some.inj h)
      exact equal ▸ nearer_tried phase answer
    · cases h
  | tunnel a =>
    simp only [act, tunnel] at h
    split at h
    · rename_i phase
      obtain ⟨⟨u, ends, later⟩, moved, equal⟩ := Option.map_eq_some_iff.1 h
      cases equal
      exact .inr (by simpa [rank, work, phase] using Tunnel.act_work moved)
    · cases h
  | conclude =>
    simp only [act, conclude] at h
    split at h
    · rename_i phase
      obtain ⟨summary, _, equal⟩ := Option.map_eq_some_iff.1 h
      cases equal
      exact .inl (by simp [rank, phase, finish, endWith])
    · cases h

end Session

-- The actions of a tunnel in the order in which they are tried: both directions copy until they
-- wait, then the session looks whether one has finished.
def Tunnel.choices (t : Tunnel) : List Tunnel.Action :=
  let size : CopyLoop → Nat
    | .writing _ left => left.length
    | _ => 0
  let copies := [.copy .up (size t.up), .copy .down (size t.down)]
  if t.first.isNone then copies ++ [.settle .up, .settle .down] else .abandon :: copies

namespace Session

def choices (net : Network) (s : Session) : List Action :=
  match s.phase with
  | .awaitingRequest | .joined _ _ .awaitingReply => [.read]
  | .dialing dest _ .lookingUp => [.resolved (net.lookup dest.host)]
  | .dialing dest _ (.trying ip _) => [.dialed (net.connect ⟨ip, dest.port⟩)]
  | .answering left _ | .joined _ _ (.establishing left) | .joined _ _ (.sendingRequest left)
  | .joined _ _ (.sendingReply _ left) => [.write left.length]
  | .joined _ _ (.tunneling t) => .conclude :: t.choices.map .tunnel
  | .over _ _ => []

theorem own_of_mem_choices {net : Network} {s : Session} {a : Action}
    (h : a ∈ s.choices net) : a.isFar = false := by
  unfold choices at h
  split at h
  case h_9 =>
    rcases List.mem_cons.1 h with rfl | copied
    · rfl
    · obtain ⟨b, _, rfl⟩ := List.mem_map.1 copied
      rfl
  all_goals simp_all [Action.isFar]

def step? (net : Network) (p : Policy) (s : Session) : Option (Session × Journal) :=
  (s.choices net).findSome? (s.act p)

theorem nearer_step {net : Network} {p : Policy} {s t : Session}
    (h : s.step? net p = some (t, journal)) : t.Nearer s := by
  obtain ⟨a, chosen, acted⟩ := List.exists_of_findSome?_eq_some h
  exact nearer_act (own_of_mem_choices chosen) acted

def settle (net : Network) (p : Policy) (s : Session) : Session × Journal :=
  match moved : s.step? net p with
  | none => (s, [])
  | some (t, journal) =>
    have := nearer_step moved
    after journal (settle net p t)
termination_by (s.rank, s.work)
decreasing_by exact Prod.lex_def.2 this

def react (net : Network) (p : Policy) (s : Session) (who : End) (event : FarEvent) :
    Option (Session × Journal) :=
  (s.far who event).map fun (t, journal) => after journal (settle net p t)

end Session

end GatedProxy
