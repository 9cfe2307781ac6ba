import GatedProxy.Server.Basic

namespace GatedProxy

theorem countP_places (items : List Item) (pass : Item → Bool) :
    items.countP pass =
      (List.range items.length).countP fun place => items[place]?.any pass := by
  have places : items.map some = (List.range items.length).map fun place => items[place]? := by
    apply List.ext_getElem
    · simp
    · intro place inside _
      simp at inside
      simp [inside]
  have counted := congrArg (List.countP fun item => item.any pass) places
  rw [List.countP_map, List.countP_map] at counted
  exact counted

namespace Presence

variable {p : Presence}

-- The count is that of the markers still held, modulo 2^64.
def Exact (p : Presence) : Prop := p.active = UInt64.ofNat (p.markers.count .held)

theorem enter_exact (exact : p.Exact) : (p.act .enter).Exact := by
  have counted : (p.markers ++ [Marker.held]).count Marker.held = p.markers.count .held + 1 := by simp
  unfold Exact at exact ⊢
  simp only [act]
  rw [counted, exact, UInt64.ofNat_add]
  rfl

theorem count_set_held {markers : List Marker} (held : markers[which]? = some .held)
    (gone : final ≠ .held) :
    markers.count .held = (markers.set which final).count .held + 1 := by
  obtain ⟨inside, here⟩ := List.getElem?_eq_some_iff.1 held
  have counted := List.count_set (a := final) (b := .held) inside
  have some : 0 < markers.count .held := List.count_pos_iff.2 (here ▸ List.getElem_mem inside)
  simp only [here, beq_self_eq_true, if_true, beq_iff_eq, gone, if_false] at counted
  omega

theorem count_set_other {markers : List Marker} (held : markers[which]? = some marker)
    (before : marker ≠ .held) (after : final ≠ .held) :
    (markers.set which final).count .held = markers.count .held := by
  obtain ⟨inside, here⟩ := List.getElem?_eq_some_iff.1 held
  have counted := List.count_set (a := final) (b := .held) inside
  simpa [here, before, after] using counted

theorem leave_exact (exact : p.Exact) (which : Nat) (gone : final ≠ .held) :
    (p.leave which final).Exact := by
  unfold leave
  split
  · rename_i held
    unfold Exact at exact ⊢
    rw [exact, count_set_held held gone, UInt64.ofNat_add]
    simp
  · rename_i released
    unfold Exact at exact ⊢
    rw [count_set_other released (by decide) gone]
    exact exact
  · exact exact
  · exact exact

theorem act_exact (exact : p.Exact) (a : Action) : (p.act a).Exact := by
  cases a with
  | enter => exact enter_exact exact
  | release which => exact leave_exact exact which (by decide)
  | drop which => exact leave_exact exact which (by decide)

theorem run_exact (exact : p.Exact) (actions : List Action) : (p.run actions).Exact := by
  induction actions generalizing p with
  | nil => exact exact
  | cons a actions ih => exact ih (act_exact exact a)

def Action.which? : Action → Option Nat
  | .enter => none
  | .release which | .drop which => some which

-- What is done after the marker of this number has been taken, if it ever is.
def sinceEntry : Nat → List Action → Option (List Action)
  | _, [] => none
  | 0, .enter :: rest => some rest
  | which + 1, .enter :: rest => sinceEntry which rest
  | which, .release _ :: rest | which, .drop _ :: rest => sinceEntry which rest

-- Whether a marker has been taken, and since then neither been released nor dropped.
def isHeldAfter (actions : List Action) (which : Nat) : Bool :=
  (sinceEntry which actions).any fun later => later.all fun a => a.which? ≠ some which

def heldAfter (actions : List Action) : Nat :=
  (List.range (actions.count .enter)).countP (isHeldAfter actions)

theorem act_which (p : Presence) (named : Action.which? a = some which) :
    ∃ final, final ≠ .held ∧ p.act a = p.leave which final := by
  cases a with
  | enter => cases named
  | release => cases named; exact ⟨.released, by decide, rfl⟩
  | drop => cases named; exact ⟨.dropped, by decide, rfl⟩

theorem act_markers_length (p : Presence) (a : Action) :
    (p.act a).markers.length = p.markers.length + [a].count .enter := by
  have same (which : Nat) (final : Marker) :
      (p.leave which final).markers.length = p.markers.length := by
    unfold leave
    split <;> simp
  cases a with
  | enter => exact List.length_append ..
  | release which => exact same which .released
  | drop which => exact same which .dropped

theorem run_markers_length (p : Presence) (actions : List Action) :
    (p.run actions).markers.length = p.markers.length + actions.count .enter := by
  induction actions generalizing p with
  | nil => rfl
  | cons a actions ih =>
    have split : ([a] ++ actions).count .enter = [a].count .enter + actions.count .enter :=
      List.count_append
    change _ = p.markers.length + ([a] ++ actions).count .enter
    rw [split, ← Nat.add_assoc, ← act_markers_length]
    exact ih (p.act a)

theorem leave_held (p : Presence) (which other : Nat) (gone : final ≠ .held) :
    (p.leave other final).markers[which]? = some .held ↔
      other ≠ which ∧ p.markers[which]? = some .held := by
  have changed : (p.markers.set other final)[which]? = some .held ↔
      other ≠ which ∧ p.markers[which]? = some .held := by
    rw [List.getElem?_set]
    split
    · rename_i same
      split <;> simp [same, gone]
    · rename_i differ
      simp [differ]
  have still (free : p.markers[other]? ≠ some .held) : p.markers[which]? = some .held ↔
      other ≠ which ∧ p.markers[which]? = some .held := by
    refine ⟨fun held => ⟨?_, held⟩, And.right⟩
    rintro rfl
    exact free held
  unfold leave
  split
  · exact changed
  · exact changed
  · rename_i dropped
    exact still (by simp [dropped])
  · rename_i absent
    exact still (by simp [absent])

theorem act_held (inside : which < p.markers.length) (a : Action) :
    (p.act a).markers[which]? = some .held ↔
      a.which? ≠ some which ∧ p.markers[which]? = some .held := by
  cases named : a.which? with
  | none =>
    cases a with
    | enter =>
      have same : (p.act .enter).markers[which]? = p.markers[which]? :=
        List.getElem?_append_left inside
      simp [same]
    | release => cases named
    | drop => cases named
  | some other =>
    obtain ⟨final, gone, same⟩ := act_which p named
    rw [same, leave_held p which other gone]
    simp

theorem run_held (inside : which < p.markers.length) (actions : List Action) :
    (p.run actions).markers[which]? = some .held ↔
      (∀ a ∈ actions, a.which? ≠ some which) ∧ p.markers[which]? = some .held := by
  induction actions generalizing p with
  | nil => simp [run]
  | cons a actions ih =>
    have kept : which < (p.act a).markers.length := by
      rw [act_markers_length]
      omega
    have rest : ((p.act a).run actions).markers[which]? = some .held ↔ _ := ih kept
    rw [act_held inside] at rest
    rw [List.forall_mem_cons, and_comm (a := a.which? ≠ _), and_assoc]
    exact rest

theorem run_held_taken (p : Presence) (which : Nat) (actions : List Action) :
    (p.run actions).markers[p.markers.length + which]? = some .held ↔
      ∃ later, sinceEntry which actions = some later ∧
        ∀ a ∈ later, a.which? ≠ some (p.markers.length + which) := by
  induction actions generalizing p which with
  | nil => simp [run, sinceEntry]
  | cons a actions ih =>
    change ((p.act a).run actions).markers[_]? = some Marker.held ↔ _
    have length := act_markers_length p a
    cases a with
    | enter =>
      have longer : (p.act .enter).markers.length = p.markers.length + 1 := length
      cases which with
      | zero =>
        have fresh : (p.act .enter).markers[p.markers.length]? = some Marker.held :=
          List.getElem?_concat_length
        have inside : p.markers.length < (p.act .enter).markers.length := by omega
        rw [Nat.add_zero, run_held inside]
        simp [sinceEntry, fresh]
      | succ which =>
        have here := ih (p.act .enter) which
        rw [longer, Nat.add_right_comm] at here
        exact here
    | release other | drop other =>
      have same := length.trans (Nat.add_zero p.markers.length)
      rw [← same]
      exact ih _ which

theorem held_exact (actions : List Action) (which : Nat) :
    (({} : Presence).run actions).markers[which]? = some .held ↔ isHeldAfter actions which = true := by
  have taken := run_held_taken {} which actions
  simp only [List.length_nil, Nat.zero_add] at taken
  rw [taken]
  simp [isHeldAfter, Option.any_eq_true]

theorem count_held (actions : List Action) :
    (({} : Presence).run actions).markers.count .held = heldAfter actions := by
  have length := run_markers_length {} actions
  simp only [List.length_nil, Nat.zero_add] at length
  rw [List.count, countP_places, length, heldAfter]
  congr 1
  funext which
  rw [Bool.eq_iff_iff, ← held_exact]
  simp [Option.any_eq_true]

theorem act_active (p : Presence) (named : Action.which? a = some which) :
    (p.act a).active = if p.markers[which]? = some .held then p.active - 1 else p.active := by
  obtain ⟨final, _, same⟩ := act_which p named
  rw [same, leave]
  split
  · rename_i held
    rw [if_pos held]
  · rename_i released
    rw [if_neg (by simp [released])]
  · rename_i dropped
    rw [if_neg (by simp [dropped])]
  · rename_i absent
    rw [if_neg (by simp [absent])]

theorem active_heldAfter (actions : List Action) :
    (({} : Presence).run actions).active = UInt64.ofNat (heldAfter actions) := by
  have empty : ({} : Presence).Exact := rfl
  have exact : _ = _ := run_exact empty actions
  rw [exact, count_held]

theorem toNat_ofNat_exact (n : Nat) : (UInt64.ofNat n).toNat = n ↔ n < UInt64.size := by
  rw [UInt64.toNat_ofNat']
  exact ⟨fun same => same ▸ Nat.mod_lt n (by decide), Nat.mod_eq_of_lt⟩

end Presence

end GatedProxy
