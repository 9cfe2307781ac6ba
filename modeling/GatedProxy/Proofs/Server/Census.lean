import GatedProxy.Proofs.Presence
import GatedProxy.Proofs.Server.Step

namespace GatedProxy

def Slot.marker? (slot : Slot) : Option Nat :=
  match slot.stage with
  | .running marker _ => some marker
  | .spawned | .ended => none

theorem Presence.run_departure {p : Presence} {which : Nat} (held : p.markers[which]? = some .held)
    (result : Option SessionResult) :
    p.run (Server.departure which result) =
      { markers := p.markers.set which .dropped, active := p.active - 1 } := by
  have inside := (List.getElem?_eq_some_iff.1 held).1
  cases result with
  | none => simp [Server.departure, run, act, leave, held]
  | some r =>
    have released : p.leave which .released =
        { markers := p.markers.set which .released, active := p.active - 1 } := by
      simp [leave, held]
    have now : (p.markers.set which .released)[which]? = some .released :=
      List.getElem?_set_self inside
    change (p.leave which .released).leave which .dropped = _
    rw [released]
    simp [leave, now]

-- The markers that are held are those of the tasks that run, one for each. `posts` has the tasks in
-- their order.
structure Manned (posts : List (Option Nat)) (p : Presence) : Prop where
  exact : p.Exact
  held : ∀ i marker : Nat, posts[i]? = some (some marker) → p.markers[marker]? = some Marker.held
  apart : ∀ i k marker : Nat, posts[i]? = some (some marker) → posts[k]? = some (some marker) → i = k
  count : p.markers.count Marker.held = posts.countP Option.isSome

namespace Manned

variable {posts : List (Option Nat)} {p : Presence} {which marker : Nat}

theorem empty : Manned [] {} := by
  refine ⟨rfl, ?_, ?_, rfl⟩
  · intro i marker here
    cases here
  · intro i k marker here
    cases here

theorem accept (manned : Manned posts p) : Manned (posts ++ [none]) p := by
  have old {i marker : Nat} (here : (posts ++ [none])[i]? = some (some marker)) :
      posts[i]? = some (some marker) := by
    rw [List.getElem?_append] at here
    split at here
    · exact here
    · rw [List.getElem?_singleton] at here
      split at here <;> cases here
  refine ⟨manned.exact, ?_, ?_, ?_⟩
  · intro i marker here
    exact manned.held i marker (old here)
  · intro i k marker one two
    exact manned.apart i k marker (old one) (old two)
  · simpa using manned.count

theorem start (manned : Manned posts p) (spawned : posts[which]? = some none) :
    Manned (posts.set which (some p.markers.length)) (p.act .enter) := by
  obtain ⟨inside, here⟩ := List.getElem?_eq_some_iff.1 spawned
  -- The new marker lies past all markers so far, so nobody else can have it.
  have cases_of {i marker : Nat}
      (post : (posts.set which (some p.markers.length))[i]? = some (some marker)) :
      i = which ∧ marker = p.markers.length ∨
        posts[i]? = some (some marker) ∧ p.markers[marker]? = some Marker.held := by
    rw [List.getElem?_set] at post
    split at post
    · rename_i same
      simp only [Option.some.injEq] at post
      exact .inl ⟨same.symm, post.symm⟩
    · exact .inr ⟨post, manned.held i marker post⟩
  refine ⟨Presence.act_exact manned.exact .enter, ?_, ?_, ?_⟩
  · intro i marker post
    rcases cases_of post with ⟨_, rfl⟩ | ⟨_, held⟩
    · exact List.getElem?_concat_length
    · obtain ⟨low, _⟩ := List.getElem?_eq_some_iff.1 held
      rw [← held]
      exact List.getElem?_append_left low
  · intro i k marker one two
    rcases cases_of one with ⟨rfl, rfl⟩ | ⟨one, held⟩
    · rcases cases_of two with ⟨rfl, _⟩ | ⟨_, held⟩
      · rfl
      · simp at held
    · rcases cases_of two with ⟨_, rfl⟩ | ⟨two, _⟩
      · simp at held
      · exact manned.apart i k marker one two
  · rw [List.countP_set inside, here]
    have count := manned.count
    simp [Presence.act, count]

theorem leave (manned : Manned posts p) (running : posts[which]? = some (some marker))
    (result : Option SessionResult) :
    Manned (posts.set which none) (p.run (Server.departure marker result)) := by
  obtain ⟨inside, here⟩ := List.getElem?_eq_some_iff.1 running
  have held := manned.held which marker running
  have old {i other : Nat} (post : (posts.set which none)[i]? = some (some other)) :
      posts[i]? = some (some other) ∧ marker ≠ other := by
    rw [List.getElem?_set] at post
    split at post
    · simp at post
    · rename_i differ
      refine ⟨post, ?_⟩
      rintro rfl
      exact differ (manned.apart which i marker running post)
  refine ⟨Presence.run_exact manned.exact _, ?_, ?_, ?_⟩
  · intro i other post
    obtain ⟨post, differ⟩ := old post
    rw [Presence.run_departure held, List.getElem?_set_ne differ]
    exact manned.held i other post
  · intro i k other one two
    exact manned.apart i k other (old one).1 (old two).1
  · rw [Presence.run_departure held, List.countP_set inside, here]
    have fewer := Presence.count_set_held held (show Marker.dropped ≠ .held by decide)
    have count := manned.count
    simp only [Option.isSome_some, if_true, Option.isSome_none, Bool.false_eq_true, if_false]
    omega

end Manned

namespace Server

def posts (s : Server) : List (Option Nat) := s.slots.map Slot.marker?

theorem posts_of_slot {s : Server} {which : Nat} (held : s.slots[which]? = some slot) :
    s.posts[which]? = some slot.marker? := by
  simp [posts, held]

theorem Step.manned {p : Policy} {s : Server} (step : Step p s a moved)
    (manned : Manned s.posts s.presence) : Manned moved.1.posts moved.1.presence := by
  cases step with
  | accept gate =>
    have here := manned.accept
    simpa [posts, Slot.marker?] using here
  | start held stage =>
    rename_i which slot now
    have spawned := posts_of_slot held
    simp only [Slot.marker?, stage] at spawned
    have here := manned.start spawned
    simpa [posts, List.map_set, Slot.marker?] using here
  | session held permitted moves =>
    rename_i which slot moved a
    have same : (s.note which slot moved).1.posts = s.posts := map_set_same held rfl
    rw [same]
    exact manned
  | leave held stage finished =>
    rename_i which slot marker label
    have running := posts_of_slot held
    simp only [Slot.marker?, stage] at running
    have here := manned.leave running slot.session.result?
    simpa [posts, List.map_set, Slot.marker?] using here
  | _ => exact manned

theorem Ran.manned {p : Policy} {s : Server} (ran : Ran p {} actions s j) :
    Manned s.posts s.presence := by
  induction ran with
  | start => exact .empty
  | step path step ih => exact step.manned ih

def running (s : Server) : Nat := s.slots.countP fun slot => slot.marker?.isSome

theorem Ran.active {p : Policy} {s : Server} (ran : Ran p {} actions s j) :
    s.presence.active = UInt64.ofNat s.running := by
  have manned := ran.manned
  have counted : s.posts.countP Option.isSome = s.running := List.countP_map ..
  rw [← counted, ← manned.count]
  exact manned.exact

end Server

end GatedProxy
