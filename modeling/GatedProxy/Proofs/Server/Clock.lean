import GatedProxy.Proofs.Server.Polling
import GatedProxy.Proofs.Server.Reach
import GatedProxy.Proofs.Server.Shutdown

namespace GatedProxy

namespace Server

def Action.isTimer : Action → Bool
  | .tick | .poll => true
  | _ => false

def Action.movesGate : Action → Bool
  | .poll | .stop => true
  | _ => false

variable {p : Policy} {done : Server × ServerJournal} {j : ServerJournal} {samples : List UInt64}

theorem andThen_gate (still : a.movesGate = false) : (andThen p a done).1.gate = done.1.gate := by
  unfold andThen
  split
  · rename_i s journal acted
    cases act_sound acted <;> first | rfl | cases still
  · rfl

theorem andThen_told (p : Policy) (a : Action) (told : done.1.gate ≠ .serving) :
    (andThen p a done).1.gate ≠ .serving := by
  unfold andThen
  split
  · rename_i s journal acted
    exact ((act_sound acted).gate told).1
  · exact told

theorem andThen_presence (timer : a.isTimer = true) :
    (andThen p a done).1.presence = done.1.presence := by
  unfold andThen
  split
  · rename_i s journal acted
    cases act_sound acted <;> first | rfl | cases timer
  · rfl

theorem poll_isSome {s : Server} (gate : s.gate = .draining d) : (s.act p .poll).isSome = true := by
  rw [act, poll, gate]
  dsimp only
  cases d.poll s.presence.active <;> rfl

namespace Drained

theorem andThen (p : Policy) (a : Action) (done : Server × ServerJournal)
    (drained : Drained samples done.1 (j ++ done.2)) (told : a = .poll → done.1.gate ≠ .serving) :
    Drained (samples ++ (done.1.look? a).toList) (Server.andThen p a done).1
      (j ++ (Server.andThen p a done).2) := by
  unfold Server.andThen
  split
  · rename_i s journal acted
    rw [← List.append_assoc]
    exact (act_sound acted).drained drained
  · rename_i impossible
    by_cases poll : a = .poll
    · subst poll
      cases gate : done.1.gate with
      | serving => exact absurd gate (told rfl)
      | draining d =>
        have possible := poll_isSome (p := p) gate
        rw [impossible] at possible
        cases possible
      | returned => exact drained.unseen gate _
    · have none : done.1.look? a = none := by cases a <;> trivial
      rw [none]
      exact (List.append_nil samples).symm ▸ drained

theorem timers (p : Policy) (actions : List Action) (done : Server × ServerJournal)
    (timers : ∀ a ∈ actions, a.isTimer = true) (told : done.1.gate ≠ .serving)
    (drained : Drained samples done.1 (j ++ done.2)) :
    let later := actions.foldl (fun done a => Server.andThen p a done) done
    Drained (samples ++ List.replicate (actions.count .poll) done.1.presence.active) later.1
      (j ++ later.2) := by
  induction actions generalizing done samples with
  | nil =>
    rw [List.count_nil, List.replicate_zero, List.append_nil]
    exact drained
  | cons a actions ih =>
    obtain ⟨timer, others⟩ := List.forall_mem_cons.1 timers
    have later := ih _ others (andThen_told p a told) (drained.andThen p a done fun _ => told)
    rw [andThen_presence timer, List.append_assoc] at later
    have looks : (done.1.look? a).toList ++
        List.replicate (actions.count .poll) done.1.presence.active =
          List.replicate ((a :: actions).count .poll) done.1.presence.active := by
      cases a with
      | poll =>
        rw [List.count_cons_self, List.replicate_succ]
        rfl
      | tick =>
        have other : Action.tick ≠ .poll := nofun
        rw [List.count_cons_of_ne other]
        rfl
      | _ => cases timer
    rw [looks] at later
    exact later

theorem foldl (p : Policy) (actions : List Action) (done : Server × ServerJournal)
    (still : ∀ a ∈ actions, a.movesGate = false)
    (drained : Drained samples done.1 (j ++ done.2)) :
    let later := actions.foldl (fun done a => Server.andThen p a done) done
    Drained samples later.1 (j ++ later.2) ∧ later.1.gate = done.1.gate := by
  induction actions generalizing done with
  | nil => exact ⟨drained, rfl⟩
  | cons a actions ih =>
    obtain ⟨first, rest⟩ := List.forall_mem_cons.1 still
    have other : a ≠ .poll := by
      rintro rfl
      cases first
    have none : done.1.look? a = none := by cases a <;> first | rfl | cases first
    have one := drained.andThen p a done fun poll => absurd poll other
    rw [none] at one
    obtain ⟨later, gate⟩ := ih _ rest ((List.append_nil samples) ▸ one)
    exact ⟨later, gate.trans (andThen_gate first)⟩

theorem settle (drained : Drained samples done.1 (j ++ done.2)) (net : Network) (p : Policy)
    (which : Nat) :
    let later := Server.settle net p which done
    Drained samples later.1 (j ++ later.2) ∧ later.1.gate = done.1.gate := by
  unfold Server.settle
  split
  · rename_i slot held
    split
    · have noted := drained.note which slot (slot.session.settle net p)
      rw [List.append_assoc] at noted
      exact foldl p [.leave which] _ (by simp [Action.movesGate]) noted
    · exact ⟨drained, rfl⟩
    · exact ⟨drained, rfl⟩
  · exact ⟨drained, rfl⟩

end Drained

end Server

namespace Timeline

-- The moments up to `last` at which a server that waits for its last session has to look.
def due (t : Timeline) (last : Nat) : List Nat :=
  if t.isDraining then moments Drain.interval t.stoppedAt t.now last else []

-- A server in the course of time. A look is put down with its moment and with the count of that
-- moment, whether the server makes it or not.
inductive Course (net : Network) (p : Policy) :
    Timeline → List (Nat × UInt64) → ServerJournal → Prop where
  | start (seconds : Nat) : Course net p { statusSeconds := seconds } [] []
  | connect (course : Course net p t looks j)
      (moves : t.connect net p peer failure = some (later, k)) : Course net p later looks (j ++ k)
  | react (course : Course net p t looks j)
      (moves : t.react net p which who event = some (later, k)) : Course net p later looks (j ++ k)
  | stop (course : Course net p t looks j) (serving : t.server.gate = .serving) :
      Course net p (t.stop p).1 (looks ++ [(t.now, t.server.presence.active)]) (j ++ (t.stop p).2)
  | advance (course : Course net p t looks j) (milliseconds : Nat) :
      Course net p (t.advance p milliseconds).1
        (looks ++ (t.due (t.now + milliseconds)).map (·, t.server.presence.active))
        (j ++ (t.advance p milliseconds).2)

variable {net : Network} {p : Policy} {t later : Timeline} {looks : List (Nat × UInt64)}
  {j k : ServerJournal} {last : Nat}

theorem isDraining_iff : t.isDraining = true ↔ ∃ d, t.server.gate = .draining d := by
  unfold isDraining
  split
  · rename_i d gate
    exact iff_of_true rfl ⟨d, gate⟩
  · rename_i gate
    simp [gate]
  · rename_i gate
    simp [gate]

theorem timers_perm (t : Timeline) (last : Nat) :
    ((t.timers last).map Prod.snd).Perm
      ((moments (t.statusSeconds * 1000) 0 t.now last).map (fun _ => Server.Action.tick) ++
        (t.due last).map fun _ => Server.Action.poll) := by
  have sorted := (List.mergeSort_perm ((moments (t.statusSeconds * 1000) 0 t.now last).map
    (·, Server.Action.tick) ++ (t.due last).map (·, Server.Action.poll)) (·.1 ≤ ·.1)).map Prod.snd
  rw [List.map_append, List.map_map, List.map_map] at sorted
  exact sorted

theorem timers_isTimer (t : Timeline) (last : Nat) :
    ∀ a ∈ (t.timers last).map Prod.snd, a.isTimer = true := by
  intro a member
  rcases List.mem_append.1 ((timers_perm t last).mem_iff.1 member) with tick | poll
  · obtain ⟨_, _, rfl⟩ := List.mem_map.1 tick
    rfl
  · obtain ⟨_, _, rfl⟩ := List.mem_map.1 poll
    rfl

theorem count_timers (t : Timeline) (last : Nat) :
    ((t.timers last).map Prod.snd).count .poll = (t.due last).length := by
  have other : Server.Action.poll ∉ (moments (t.statusSeconds * 1000) 0 t.now last).map
      fun _ => Server.Action.tick := by simp
  rw [(timers_perm t last).count_eq, List.count_append, List.count_eq_zero_of_not_mem other,
    List.map_const', List.count_replicate_self, Nat.zero_add]

theorem timers_still (calm : t.isDraining = false) (last : Nat) :
    ∀ a ∈ (t.timers last).map Prod.snd, a.movesGate = false := by
  intro a member
  have none : ((t.timers last).map Prod.snd).count .poll = 0 := by
    rw [count_timers, due, if_neg (by simp [calm])]
    rfl
  have timer := timers_isTimer t last a member
  cases a with
  | poll => exact absurd member (List.count_eq_zero.1 none)
  | tick => rfl
  | _ => cases timer

theorem moments_due {period start now last : Nat} (later : now ≤ last) (positive : 0 < period) :
    (List.range ((now - start) / period + 1)).map (start + period * ·) ++
        moments period start now last =
      (List.range ((last - start) / period + 1)).map (start + period * ·) := by
  have grows : (now - start) / period ≤ (last - start) / period :=
    Nat.div_le_div_right (Nat.sub_le_sub_right later start)
  obtain ⟨more, split⟩ := Nat.exists_eq_add_of_le grows
  rw [moments, if_neg (Nat.ne_of_gt positive), split]
  dsimp only
  rw [Nat.add_sub_cancel_left, Nat.add_right_comm]
  generalize (now - start) / period + 1 = before
  rw [List.range_add, List.map_append, List.map_map]
  simp only [Function.comp_def, Nat.mul_comm period]

theorem due_past {period start now k : Nat} (started : start ≤ now)
    (inside : k < (now - start) / period + 1) : start + period * k ≤ now := by
  have bound : period * k ≤ now - start :=
    (Nat.mul_le_mul_left period (Nat.lt_succ_iff.1 inside)).trans (Nat.mul_div_le _ _)
  omega

-- What the course of time keeps: looks are made from the shutdown on, as far apart as they should
-- be, none too early and none too late.
structure Punctual (t : Timeline) (looks : List (Nat × UInt64)) (j : ServerJournal) : Prop where
  drained : t.server.Drained (looks.map Prod.snd) j
  moments : looks.map Prod.fst = (List.range looks.length).map (t.stoppedAt + Drain.interval * ·)
  stopped : t.stoppedAt ≤ t.now
  past : ∀ look ∈ looks, look.1 ≤ t.now
  due : t.isDraining = true → looks.length = (t.now - t.stoppedAt) / Drain.interval + 1

namespace Punctual

theorem start (seconds : Nat) : Punctual { statusSeconds := seconds } [] [] := by
  refine ⟨.start, rfl, Nat.le_refl 0, fun look member => ?_, nofun⟩
  cases member

theorem opened (punctual : Punctual t looks j) :
    t.server.Drained (looks.map Prod.snd) (j ++ []) :=
  (List.append_nil j).symm ▸ punctual.drained

theorem still (punctual : Punctual t looks j) {server : Server}
    (drained : server.Drained (looks.map Prod.snd) k) (gate : server.gate = t.server.gate) :
    Punctual { t with server } looks k := by
  refine ⟨drained, punctual.moments, punctual.stopped, punctual.past, ?_⟩
  intro draining
  apply punctual.due
  rw [← draining, isDraining, isDraining, gate]

theorem connect {failure : Option SystemError} {peer : SocketAddress}
    (punctual : Punctual t looks j)
    (moves : t.connect net p peer failure = some (later, k)) : Punctual later looks (j ++ k) := by
  unfold Timeline.connect at moves
  split at moves
  · cases moves
    have calm : ∀ a ∈ failure.toList.map Server.Action.acceptFails ++
        [.accept peer, .start t.server.slots.length (t.now * 1000000)], a.movesGate = false := by
      cases failure <;> simp [Server.Action.movesGate]
    obtain ⟨started, gate⟩ := punctual.opened.foldl p _ (t.server, []) calm
    obtain ⟨settled, same⟩ := started.settle net p t.server.slots.length
    exact punctual.still settled (same.trans gate)
  · cases moves

theorem react (punctual : Punctual t looks j)
    (moves : t.react net p which who event = some (later, k)) : Punctual later looks (j ++ k) := by
  unfold Timeline.react Server.react at moves
  obtain ⟨done, reacted, equal⟩ := Option.map_eq_some_iff.1 moves
  cases equal
  obtain ⟨moved, acted, rfl⟩ := Option.map_eq_some_iff.1 reacted
  have step := Server.act_sound acted
  have drained := step.drained punctual.drained
  have unseen : t.server.look? (.session which (.far who event)) = none := rfl
  rw [unseen, Option.toList_none, List.append_nil] at drained
  have gate : moved.1.gate = t.server.gate := by cases step; rfl
  obtain ⟨settled, same⟩ := drained.settle net p which
  exact punctual.still settled (same.trans gate)

theorem stop (punctual : Punctual t looks j) (serving : t.server.gate = .serving) (p : Policy) :
    Punctual (t.stop p).1 (looks ++ [(t.now, t.server.presence.active)]) (j ++ (t.stop p).2) := by
  have serves : t.server.isServing = true := Server.isServing_iff.2 serving
  have first : looks = [] := by
    have shows := punctual.drained.gate
    rw [serving] at shows
    exact List.map_eq_nil_iff.1 shows
  have stops : Server.andThen p .stop (t.server, []) =
      ({ t.server with gate := .draining {} }, [.log .stopping]) := by
    simp [Server.andThen, Server.act, serves]
  have stopped := punctual.opened.andThen p .stop (t.server, []) fun poll => by cases poll
  rw [stops] at stopped
  have looked := stopped.andThen p .poll _ fun _ gate => by cases gate
  subst first
  unfold Timeline.stop
  rw [if_pos serves, stops]
  refine ⟨looked, rfl, Nat.le_refl t.now, ?_, fun _ => ?_⟩
  · intro look member
    cases List.mem_singleton.1 member
    exact Nat.le_refl t.now
  · simp

theorem idle (punctual : Punctual t looks j) (calm : t.isDraining = false) (p : Policy)
    (milliseconds : Nat) :
    Punctual (t.advance p milliseconds).1 looks (j ++ (t.advance p milliseconds).2) := by
  obtain ⟨drained, gate⟩ := punctual.opened.foldl p _ (t.server, [])
    (timers_still calm (t.now + milliseconds))
  have still := punctual.still drained gate
  refine ⟨still.drained, still.moments, Nat.le_add_right_of_le still.stopped, ?_, ?_⟩
  · intro look member
    exact Nat.le_add_right_of_le (still.past look member)
  · intro draining
    obtain ⟨d, same⟩ := isDraining_iff.1 draining
    rw [isDraining_iff.2 ⟨d, gate.symm.trans same⟩] at calm
    cases calm

theorem reaches (punctual : Punctual t looks j) (draining : t.isDraining = true)
    (later : t.now ≤ last) : looks.map Prod.fst ++ t.due last =
      (List.range ((last - t.stoppedAt) / Drain.interval + 1)).map
        (t.stoppedAt + Drain.interval * ·) := by
  rw [punctual.moments, punctual.due draining, Timeline.due, if_pos draining]
  exact moments_due later (by decide)

theorem busy (punctual : Punctual t looks j) (draining : t.isDraining = true) (p : Policy)
    (milliseconds : Nat) :
    Punctual (t.advance p milliseconds).1
        (looks ++ (t.due (t.now + milliseconds)).map (·, t.server.presence.active))
        (j ++ (t.advance p milliseconds).2) := by
  obtain ⟨d, gate⟩ := isDraining_iff.1 draining
  have told : t.server.gate ≠ .serving := by
    rw [gate]
    nofun
  have drained := punctual.opened.timers p _ (t.server, [])
    (timers_isTimer t (t.now + milliseconds)) told
  have moments : (looks ++ (t.due (t.now + milliseconds)).map
      (·, t.server.presence.active)).map Prod.fst =
        (List.range ((t.now + milliseconds - t.stoppedAt) / Drain.interval + 1)).map
          (t.stoppedAt + Drain.interval * ·) := by
    rw [List.map_append, List.map_map,
      ← punctual.reaches draining (Nat.le_add_right t.now milliseconds)]
    exact congrArg _ (List.map_id _)
  have long : (looks ++ (t.due (t.now + milliseconds)).map
      (·, t.server.presence.active)).length =
        (t.now + milliseconds - t.stoppedAt) / Drain.interval + 1 := by
    rw [← List.length_map Prod.fst, moments, List.length_map, List.length_range]
  refine ⟨?_, ?_, Nat.le_add_right_of_le punctual.stopped, ?_, fun _ => long⟩
  · have counts : ((t.due (t.now + milliseconds)).map (·, t.server.presence.active)).map Prod.snd =
        List.replicate (t.due (t.now + milliseconds)).length t.server.presence.active := by
      rw [List.map_map]
      exact List.map_const'
    rw [List.map_append, counts, ← count_timers]
    exact drained
  · rw [long]
    exact moments
  · intro look member
    have moment : look.1 ∈ _ := List.mem_map_of_mem member
    rw [moments] at moment
    obtain ⟨k, inside, same⟩ := List.mem_map.1 moment
    rw [← same]
    exact due_past (Nat.le_add_right_of_le punctual.stopped) (List.mem_range.1 inside)

theorem advance (punctual : Punctual t looks j) (p : Policy) (milliseconds : Nat) :
    Punctual (t.advance p milliseconds).1
        (looks ++ (t.due (t.now + milliseconds)).map (·, t.server.presence.active))
        (j ++ (t.advance p milliseconds).2) := by
  cases calm : t.isDraining with
  | false =>
    rw [Timeline.due, if_neg (by simp [calm]), List.map_nil, List.append_nil]
    exact punctual.idle calm p milliseconds
  | true => exact punctual.busy calm p milliseconds

end Punctual

theorem Course.punctual (course : Course net p t looks j) : Punctual t looks j := by
  induction course with
  | start seconds => exact .start seconds
  | connect _ moves ih => exact ih.connect moves
  | react _ moves ih => exact ih.react moves
  | stop _ serving ih => exact ih.stop serving p
  | advance _ milliseconds ih => exact ih.advance p milliseconds

theorem Course.reached (course : Course net p t looks j) : Server.Reached p {} (t.server, j) := by
  induction course with
  | start seconds => exact .refl p {}
  | connect _ moves ih => exact ih.append (reached_connect moves)
  | react _ moves ih => exact ih.append (reached_react moves)
  | stop _ serving ih => exact ih.append (reached_stop p _)
  | advance _ milliseconds ih => exact ih.append (reached_advance p _ milliseconds)

theorem Punctual.returned (punctual : Punctual t looks j) :
    t.server.gate = .returned ↔ ∃ moment ≤ t.now,
      (({} : Drain).watch Drain.interval t.stoppedAt (looks.map Prod.snd)).2 = some moment := by
  rw [punctual.drained.returned Drain.interval t.stoppedAt, Option.isSome_iff_exists]
  constructor
  · rintro ⟨moment, returns⟩
    refine ⟨moment, ?_, returns⟩
    rw [Drain.watch_last] at returns
    obtain ⟨k, found, rfl⟩ := Option.map_eq_some_iff.1 returns
    have inside : k < looks.length := by
      obtain ⟨inside, _⟩ := List.findIdx?_eq_some_iff_getElem.1 found
      rwa [List.length_map] at inside
    have moment : t.stoppedAt + Drain.interval * k ∈ looks.map Prod.fst := by
      rw [punctual.moments]
      exact List.mem_map_of_mem (List.mem_range.2 inside)
    obtain ⟨look, member, same⟩ := List.mem_map.1 moment
    exact same ▸ punctual.past look member
  · rintro ⟨moment, _, returns⟩
    exact ⟨moment, returns⟩

-- The two loops, for all that they may find; what a server logs and when it returns, for every
-- order of its actions; and the moments of its looks, for every course of time.
theorem changes_reported :
    (∀ samples, Monitor.Reports samples (({} : Monitor).watch samples)) ∧
    (∀ every start samples,
      Drain.Awaits every start samples (({} : Drain).watch every start samples)) ∧
    (∀ p actions s j, Server.run p {} actions = some (s, j) →
      j.statuses = (({} : Monitor).watch (Server.seen Server.tick? p {} actions)).reduceOption ∧
      ∀ every start,
        let looks := ({} : Drain).watch every start (Server.seen Server.look? p {} actions)
        j.waitings = (looks.1.map Prod.snd).reduceOption ∧
          (s.gate = .returned ↔ looks.2.isSome = true)) ∧
    ∀ net p t looks j, Course net p t looks j →
      (∃ actions, Server.run p {} actions = some (t.server, j)) ∧
      looks.map Prod.fst = (List.range looks.length).map (t.stoppedAt + Drain.interval * ·) ∧
      (∀ look ∈ looks, look.1 ≤ t.now) ∧
      (t.isDraining = true → looks.length = (t.now - t.stoppedAt) / Drain.interval + 1) ∧
      let seen := ({} : Drain).watch Drain.interval t.stoppedAt (looks.map Prod.snd)
      j.waitings = (seen.1.map Prod.snd).reduceOption ∧
        (t.server.gate = .returned ↔ ∃ moment ≤ t.now, seen.2 = some moment) := by
  refine ⟨Monitor.watch_reports, Drain.watch_awaits, ?_, ?_⟩
  · intro p actions s j ran
    have path := Server.run_exact.1 ran
    have drained := Server.Ran.drained path
    refine ⟨(Server.Ran.monitored path).statuses, ?_⟩
    intro every start
    exact ⟨drained.waitings every start, drained.returned every start⟩
  · intro net p t looks j course
    have punctual := course.punctual
    exact ⟨course.reached, punctual.moments, punctual.past, punctual.due,
      punctual.drained.waitings Drain.interval t.stoppedAt, punctual.returned⟩

-- A sample that leaves and comes back, a count that does. A server that is told to stop while a
-- client has yet to say something, and the same with a clock.
theorem changes_reported_comeback :
    let busy : Sample := { active := 1, totals := { up := 5, down := 7 } }
    let p : Policy := { credentials := .ofList [⟨"u".toList, "a".toList⟩] }
    let peer : SocketAddress := ⟨.v4 ⟨192, 0, 2, 1⟩, 50000⟩
    let actions : List Server.Action := [.accept peer, .start 0 0, .tick, .stop, .poll, .tick,
      .poll, .session 0 (.far .client .finish), .session 0 .read, .leave 0, .tick, .poll]
    (({} : Monitor).watch [busy, {}, {}, busy]).reduceOption =
      [.status 1 { up := 5, down := 7 }, .status 0 {}, .status 1 { up := 5, down := 7 }] ∧
    (({} : Drain).watch 250 1000 [2, 1, 2, 2, 0, 3]).2 = some 2000 ∧
    (∃ s j, Server.run p {} actions = some (s, j) ∧ s.gate = .returned ∧
      j.statuses = [.status 1 {}, .status 0 {}] ∧ j.waitings = [.waiting 1]) ∧
    ∃ t j, Course {} p t [(0, 1)] j ∧ t.server.gate ≠ .returned ∧ j.waitings = [.waiting 1] := by
  intro busy p peer actions
  obtain ⟨lines, looks, runs, courses⟩ := changes_reported
  refine ⟨(lines _).distinct.trans (by decide), (looks 250 1000 _).returns, ?_, ?_⟩
  · have possible : (Server.run p {} actions).isSome = true := by decide +kernel
    obtain ⟨⟨s, j⟩, ran⟩ := Option.isSome_iff_exists.1 possible
    have ticks : Server.seen Server.tick? p {} actions =
        [{ active := 1 }, { active := 1 }, {}] := by decide +kernel
    have polls : Server.seen Server.look? p {} actions = [1, 1, 0] := by decide +kernel
    obtain ⟨statuses, waits⟩ := runs p actions s j ran
    obtain ⟨waitings, returned⟩ := waits 250 0
    rw [ticks] at statuses
    rw [polls] at waitings returned
    exact ⟨s, j, ran, returned.2 rfl, statuses.trans (by decide), waitings.trans (by decide)⟩
  · have still : Session.step? {} p {} = none := by decide +kernel
    have settled : Session.settle {} p {} = ({}, []) := by
      rw [Session.settle]
      split
      · rfl
      · rename_i moved
        rw [still] at moved
        cases moved
    have connects : ∃ t k, ({} : Timeline).connect {} p peer none = some (t, k) ∧
        t.server.gate = .serving ∧ t.now = 0 ∧ t.server.presence.active = 1 := by
      refine ⟨_, _, if_pos rfl, ?_⟩
      simp [Server.andThen, Server.act, Server.start, settled, Server.isServing, Server.leave,
        Server.note, Session.isOver]
      decide
    obtain ⟨t, k, moves, serving, now, active⟩ := connects
    have course := ((Course.start 0).connect moves).stop serving
    rw [now, active] at course
    obtain ⟨_, moments, _, _, waitings, returned⟩ := courses _ _ _ _ _ course
    have first : (t.stop p).1.stoppedAt = 0 := (List.cons.inj moments).1.symm
    refine ⟨_, _, course, ?_, ?_⟩
    · rw [ne_eq, returned, first]
      rintro ⟨_, _, none⟩
      cases none
    · rw [waitings, first]
      decide

end Timeline

end GatedProxy
