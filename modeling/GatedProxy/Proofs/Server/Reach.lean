import GatedProxy.Proofs.Server.Step
import GatedProxy.Server.Run

namespace GatedProxy

namespace Session

theorem exists_run_settle (net : Network) (p : Policy) (s : Session) :
    ∃ actions, s.run p actions = some (s.settle net p) := by
  fun_induction settle net p s with
  | case1 s still => exact ⟨[], rfl⟩
  | case2 s t journal moved nearer ih =>
    obtain ⟨a, _, acted⟩ := List.exists_of_findSome?_eq_some moved
    obtain ⟨actions, ran⟩ := ih
    exact ⟨a :: actions, by simp [run, acted, ran, after]⟩

end Session

namespace Server

def Reached (p : Policy) (s : Server) (done : Server × ServerJournal) : Prop :=
  ∃ actions, s.run p actions = some done

theorem Reached.refl (p : Policy) (s : Server) : Reached p s (s, []) := ⟨[], rfl⟩

theorem Reached.append {p : Policy} {s t u : Server} {journal more : ServerJournal}
    (one : Reached p s (t, journal)) (two : Reached p t (u, more)) :
    Reached p s (u, journal ++ more) := by
  obtain ⟨before, ran⟩ := one
  obtain ⟨later, went⟩ := two
  exact ⟨before ++ later, (runs p).append ran went⟩

theorem Reached.act {p : Policy} {s t : Server} {a : Action} {journal : ServerJournal}
    (h : s.act p a = some (t, journal)) : Reached p s (t, journal) :=
  ⟨[a], by simp [run, h]⟩

theorem reached_andThen {p : Policy} {s : Server} {done : Server × ServerJournal}
    (h : Reached p s done) (a : Action) : Reached p s (andThen p a done) := by
  unfold andThen
  split
  · rename_i t journal acted
    exact h.append (.act acted)
  · exact h

theorem note_nothing {s : Server} {which : Nat} {slot : Slot} (held : s.slots[which]? = some slot) :
    s.note which slot (slot.session, []) = (s, []) := by
  obtain ⟨inside, rfl⟩ := List.getElem?_eq_some_iff.1 held
  have same := List.set_getElem_self inside
  have totals := Counts.plus_zero s.totals
  refine Prod.ext ?_ rfl
  change { s with slots := s.slots.set which s.slots[which], totals := s.totals.plus {} } = s
  rw [same, totals]

theorem note_note (s : Server) (which : Nat) (slot : Slot) (one two : Session × Journal) :
    let s' := (s.note which slot one).1
    let slot' : Slot := { slot with session := one.1 }
    (s'.note which slot' two).1 = (s.note which slot (two.1, one.2 ++ two.2)).1 := by
  simp [note, Journal.counted_append, Counts.plus_assoc]

-- A session that runs inside a server runs as it would alone.
theorem reached_note {p : Policy} {which : Nat} {actions : List Session.Action} {s : Server}
    {slot : Slot} {marker : Nat} {id : Text} {moved : Session × Journal}
    (held : s.slots[which]? = some slot) (running : slot.stage = .running marker id)
    (ran : slot.session.run p actions = some moved) : Reached p s (s.note which slot moved) := by
  induction actions generalizing s slot moved with
  | nil =>
    cases ran
    rw [note_nothing held]
    exact .refl p s
  | cons a actions ih =>
    obtain ⟨⟨session, first⟩, acted, rest⟩ := Option.bind_eq_some_iff.1 ran
    obtain ⟨⟨last, second⟩, went, equal⟩ := Option.bind_eq_some_iff.1 rest
    cases equal
    have inside := (List.getElem?_eq_some_iff.1 held).1
    have permitted : slot.stage.permits a = true := by rw [running]; cases a <;> rfl
    have one : s.act p (.session which a) = some (s.note which slot (session, first)) := by
      simp [Server.act, Server.session, held, permitted, acted]
    have now : (s.note which slot (session, first)).1.slots[which]? =
        some { slot with session } := by
      simp [note, inside]
    have two := (Reached.act one).append (ih now running went)
    have same := note_note s which slot (session, first) (last, second)
    have whole : s.note which slot (last, first ++ second) =
        ((s.note which slot (last, first ++ second)).1,
          (first ++ second).map (.session which)) := rfl
    rw [whole, ← same, List.map_append]
    exact two

theorem reached_settle {net : Network} {p : Policy} {s : Server} {which : Nat}
    {done : Server × ServerJournal} (h : Reached p s done) :
    Reached p s (settle net p which done) := by
  unfold settle
  split
  · rename_i slot held
    split
    · rename_i marker id running
      obtain ⟨actions, ran⟩ := Session.exists_run_settle net p slot.session
      exact reached_andThen (h.append (reached_note held running ran)) (.leave which)
    · exact h
    · exact h
  · exact h

theorem reached_react {net : Network} {p : Policy} {s : Server} {which : Nat} {who : End}
    {event : FarEvent} {done : Server × ServerJournal}
    (h : s.react net p which who event = some done) : Reached p s done := by
  obtain ⟨moved, acted, rfl⟩ := Option.map_eq_some_iff.1 h
  exact reached_settle (.act acted)

theorem reached_foldl {p : Policy} {s : Server} (actions : List Action)
    {done : Server × ServerJournal} (h : Reached p s done) :
    Reached p s (actions.foldl (fun done a => andThen p a done) done) := by
  induction actions generalizing done with
  | nil => exact h
  | cons a actions ih => exact ih (reached_andThen h a)

end Server

namespace Timeline

theorem reached_connect {net : Network} {p : Policy} {t u : Timeline} {peer : SocketAddress}
    {failure : Option SystemError} {journal : ServerJournal}
    (h : t.connect net p peer failure = some (u, journal)) :
    Server.Reached p t.server (u.server, journal) := by
  unfold connect at h
  split at h
  · cases h
    exact Server.reached_settle (Server.reached_foldl _ (.refl p t.server))
  · cases h

theorem reached_react {net : Network} {p : Policy} {t u : Timeline} {which : Nat} {who : End}
    {event : FarEvent} {journal : ServerJournal}
    (h : t.react net p which who event = some (u, journal)) :
    Server.Reached p t.server (u.server, journal) := by
  obtain ⟨done, moved, equal⟩ := Option.map_eq_some_iff.1 h
  cases equal
  exact Server.reached_react moved

theorem reached_stop (p : Policy) (t : Timeline) :
    Server.Reached p t.server ((t.stop p).1.server, (t.stop p).2) := by
  unfold stop
  split
  · exact Server.reached_andThen (Server.reached_andThen (.refl p t.server) _) _
  · exact .refl p t.server

theorem reached_advance (p : Policy) (t : Timeline) (milliseconds : Nat) :
    Server.Reached p t.server
      ((t.advance p milliseconds).1.server, (t.advance p milliseconds).2) :=
  Server.reached_foldl _ (.refl p t.server)

end Timeline

end GatedProxy
