namespace GatedProxy

variable {State Act Trace View : Type}

-- A run grown at its end, so that an invariant of a whole history is an induction on what comes
-- last. `step` says what one action can do.
inductive Ran (step : State → Act → State × List Trace → Prop) (origin : State) :
    List Act → State → List Trace → Prop where
  | start : Ran step origin [] origin []
  | step (path : Ran step origin actions s journal) (moves : step s a moved) :
      Ran step origin (actions ++ [a]) moved.1 (journal ++ moved.2)

namespace Ran

variable {step : State → Act → State × List Trace → Prop}

theorem cons (first : step s a moved) (path : Ran step moved.1 actions t journal) :
    Ran step s (a :: actions) t (moved.2 ++ journal) := by
  induction path with
  | start => simpa using Ran.step .start first
  | step path moves ih => simpa [List.append_assoc] using Ran.step ih moves

theorem append (one : Ran step s before t journal) (two : Ran step t later u more) :
    Ran step s (before ++ later) u (journal ++ more) := by
  induction two with
  | start => simpa using one
  | step path moves ih => simpa [List.append_assoc] using Ran.step ih moves

theorem last (path : Ran step origin (before ++ [a]) t whole) :
    ∃ s journal moved, Ran step origin before s journal ∧ step s a moved ∧ t = moved.1 ∧
      whole = journal ++ moved.2 := by
  generalize split : before ++ [a] = actions at path
  cases path with
  | start => simp at split
  | step path moves =>
    obtain ⟨rfl, same⟩ := List.append_inj' split rfl
    cases same
    exact ⟨_, _, _, path, moves, rfl, rfl⟩

theorem unique (single : ∀ {s a moved other}, step s a moved → step s a other → moved = other)
    (one : Ran step origin actions s journal) (two : Ran step origin actions t more) :
    s = t ∧ journal = more := by
  induction one generalizing t more with
  | start =>
    generalize none : [] = actions at two
    cases two with
    | start => exact ⟨rfl, rfl⟩
    | step => simp at none
  | step path moves ih =>
    obtain ⟨s', journal', moved', path', moves', rfl, rfl⟩ := two.last
    obtain ⟨rfl, rfl⟩ := ih path'
    cases single moves moves'
    exact ⟨rfl, rfl⟩

end Ran

variable {act : State → Act → Option (State × List Trace)}
  {run : State → List Act → Option (State × List Trace)}

structure Runs (act : State → Act → Option (State × List Trace))
    (run : State → List Act → Option (State × List Trace)) : Prop where
  nil (s : State) : run s [] = some (s, [])
  cons (s : State) (a : Act) (rest : List Act) : run s (a :: rest) =
    (act s a).bind fun first =>
      (run first.1 rest).bind fun last => some (last.1, first.2 ++ last.2)

theorem Runs.append (runs : Runs act run) (one : run s before = some (t, journal))
    (two : run t later = some (u, more)) : run s (before ++ later) = some (u, journal ++ more) := by
  induction before generalizing s journal with
  | nil =>
    rw [runs.nil] at one
    cases one
    exact two
  | cons a before ih =>
    rw [runs.cons] at one
    obtain ⟨first, acted, rest⟩ := Option.bind_eq_some_iff.1 one
    obtain ⟨last, ran, equal⟩ := Option.bind_eq_some_iff.1 rest
    cases equal
    simp [runs.cons, acted, ih ran, List.append_assoc]

theorem Runs.split (runs : Runs act run) (whole : run s (before ++ later) = some (u, journal)) :
    ∃ t opening rest, run s before = some (t, opening) ∧ run t later = some (u, rest) ∧
      journal = opening ++ rest := by
  induction before generalizing s journal with
  | nil => exact ⟨s, [], journal, runs.nil s, whole, rfl⟩
  | cons a before ih =>
    rw [List.cons_append, runs.cons] at whole
    obtain ⟨first, acted, rest⟩ := Option.bind_eq_some_iff.1 whole
    obtain ⟨last, ran, equal⟩ := Option.bind_eq_some_iff.1 rest
    cases equal
    obtain ⟨t, opening, rest, one, two, joined⟩ := ih ran
    exact ⟨t, first.2 ++ opening, rest, by simp [runs.cons, acted, one], two, by simp [joined]⟩

-- What the actions of a run find, one after the other, each where the ones before it have led.
def views (act : State → Act → Option (State × List Trace)) (view : State → Act → Option View)
    (s : State) : List Act → List View
  | [] => []
  | a :: rest =>
    (view s a).toList ++
      match act s a with
      | some moved => views act view moved.1 rest
      | none => []

theorem Runs.views_append (runs : Runs act run) (view : State → Act → Option View)
    (ran : run s before = some (t, journal)) (later : List Act) :
    views act view s (before ++ later) = views act view s before ++ views act view t later := by
  induction before generalizing s journal with
  | nil =>
    rw [runs.nil] at ran
    cases ran
    rfl
  | cons a before ih =>
    rw [runs.cons] at ran
    obtain ⟨first, acted, rest⟩ := Option.bind_eq_some_iff.1 ran
    obtain ⟨last, went, equal⟩ := Option.bind_eq_some_iff.1 rest
    cases equal
    simp [views, acted, ih went, List.append_assoc]

theorem Runs.views_snoc (runs : Runs act run) (view : State → Act → Option View)
    (ran : run s actions = some (t, journal)) (a : Act) :
    views act view s (actions ++ [a]) = views act view s actions ++ (view t a).toList := by
  have alone : views act view t [a] = (view t a).toList := by
    simp only [views]
    split <;> exact List.append_nil _
  rw [runs.views_append view ran, alone]

theorem of_mem_views {view : State → Act → Option View} {s : State} {actions : List Act}
    (member : one ∈ views act view s actions) : ∃ t a, view t a = some one := by
  induction actions generalizing s with
  | nil => cases member
  | cons a actions ih =>
    rcases List.mem_append.1 member with here | later
    · exact ⟨s, a, Option.mem_toList.1 here⟩
    · split at later
      · exact ih later
      · cases later

theorem Runs.exact (runs : Runs act run) {step : State → Act → State × List Trace → Prop}
    (acts : ∀ {s a moved}, act s a = some moved ↔ step s a moved) :
    run s actions = some (t, journal) ↔ Ran step s actions t journal := by
  constructor
  · intro ran
    induction actions generalizing s journal with
    | nil =>
      rw [runs.nil] at ran
      cases ran
      exact .start
    | cons a actions ih =>
      rw [runs.cons] at ran
      obtain ⟨first, acted, rest⟩ := Option.bind_eq_some_iff.1 ran
      obtain ⟨last, went, equal⟩ := Option.bind_eq_some_iff.1 rest
      cases equal
      exact .cons (acts.1 acted) (ih went)
  · intro path
    induction path with
    | start => exact runs.nil s
    | step path moves ih =>
      apply runs.append ih
      simp [runs.cons, acts.2 moves, runs.nil]

end GatedProxy
