import GatedProxy.Proofs.Text.Cut
import GatedProxy.Proofs.Text.Number
import GatedProxy.Server.Basic
import Mathlib.Data.List.Destutter
import Mathlib.Data.List.ReduceOption

namespace GatedProxy

section Changes

variable {α : Type} [DecidableEq α] {last now : α} {samples : List α}

def changes (last : α) : List α → List (Option α)
  | [] => []
  | now :: later => (if now = last then none else some now) :: changes now later

-- The samples again, from what was new in them: where nothing was, the last one still holds.
def replay (last : α) : List (Option α) → List α
  | [] => []
  | change :: later => change.getD last :: replay (change.getD last) later

theorem replay_changes (last : α) (samples : List α) :
    replay last (changes last samples) = samples := by
  induction samples generalizing last with
  | nil => rfl
  | cons now samples ih =>
    rw [changes]
    split
    · rename_i same
      rw [replay, Option.getD_none, ← same, ih]
    · rw [replay, Option.getD_some, ih]

theorem getElem?_changes (last : α) (samples : List α) (k : Nat) :
    (changes last samples)[k]? =
      samples[k]?.map fun now => if (last :: samples)[k]? = some now then none else some now := by
  induction samples generalizing last k with
  | nil => rfl
  | cons now samples ih =>
    rw [changes]
    cases k with
    | zero => simp [eq_comm]
    | succ k => exact ih now k

theorem destutter_changes (last : α) (samples : List α) :
    (last :: samples).destutter (· ≠ ·) = last :: (changes last samples).reduceOption := by
  induction samples generalizing last with
  | nil => rfl
  | cons now samples ih =>
    rw [List.destutter_cons_cons, changes]
    by_cases same : now = last
    · rw [if_neg (by simpa using same.symm), if_pos same]
      subst same
      exact ih now
    · rw [if_pos (Ne.symm same), if_neg same, ← List.destutter_cons', ih]
      rfl

theorem changes_snoc (last : α) (samples : List α) (now : α) :
    changes last (samples ++ [now]) =
      changes last samples ++ [if now = samples.getLastD last then none else some now] := by
  induction samples generalizing last with
  | nil => rfl
  | cons one samples ih =>
    rw [List.cons_append, changes, ih, changes, List.getLastD_cons]
    rfl

end Changes

theorem Text.decimal_cut {m n : Nat} {sep : Char} {s t : Text} (other : sep.isDigit = false)
    (same : decimal m ++ sep :: s = decimal n ++ sep :: t) : m = n ∧ s = t := by
  have cut := splitFirst_append s (decimal_clear m other)
  rw [same, splitFirst_append t (decimal_clear n other), Option.some.injEq, Prod.mk.injEq] at cut
  exact ⟨(decimal_injective cut.1).symm, cut.2.symm⟩

theorem Text.toList_toString (n : UInt64) : (toString n).toList = decimal n.toNat :=
  String.toList_ofList

namespace Sample

def line (s : Sample) : LogEvent := .status s.active s.totals

def ofLine? : LogEvent → Option Sample
  | .status active totals => some { active, totals }
  | _ => none

def text (s : Sample) : Text :=
  "Status - active sessions: ".toList ++ (Text.decimal s.active.toNat ++ ',' ::
    (" tunneled ".toList ++ (Text.decimal s.totals.up.toNat ++ '↑' ::
      ' ' :: (Text.decimal s.totals.down.toNat ++ '↓' :: " bytes total".toList))))

theorem report_line (s : Sample) : s.line.report? = some (.info, String.ofList s.text) := by
  have printed : ("Status - active sessions: " ++ toString s.active ++ ", tunneled " ++
      LogEvent.traffic s.totals ++ " total").toList = s.text := by
    unfold text LogEvent.traffic
    simp [Text.toList_toString]
  rw [← printed, String.ofList_toList]
  rfl

theorem text_injective {one two : Sample} (same : one.text = two.text) : one = two := by
  unfold text at same
  generalize "Status - active sessions: ".toList = lead, " tunneled ".toList = middle,
    " bytes total".toList = tail at same
  rw [List.append_cancel_left_eq] at same
  obtain ⟨active, traffic⟩ := Text.decimal_cut (by decide) same
  rw [List.append_cancel_left_eq] at traffic
  obtain ⟨up, rest⟩ := Text.decimal_cut (by decide) traffic
  obtain ⟨down, _⟩ := Text.decimal_cut (by decide) (List.cons.inj rest).2
  obtain ⟨active', up', down'⟩ := one
  rw [UInt64.toNat_inj] at active up down
  cases active
  cases up
  cases down
  rfl

theorem report_injective {one two : Sample} (same : one.line.report? = two.line.report?) :
    one = two := by
  rw [report_line, report_line, Option.some.injEq, Prod.mk.injEq] at same
  exact text_injective (String.ofList_injective same.2)

end Sample

namespace Monitor

theorem watch_changes (m : Monitor) (samples : List Sample) :
    m.watch samples = (changes m.last samples).map (Option.map Sample.line) := by
  induction samples generalizing m with
  | nil => rfl
  | cons now samples ih =>
    rw [watch, tick, changes, List.map_cons]
    dsimp only
    rw [ih]
    split <;> rfl

theorem getElem?_watch (m : Monitor) (samples : List Sample) (k : Nat) :
    (m.watch samples)[k]? = samples[k]?.map fun now =>
      if (m.last :: samples)[k]? = some now then none else some now.line := by
  rw [watch_changes, List.getElem?_map, getElem?_changes, Option.map_map]
  congr 1
  funext now
  simp only [Function.comp_apply]
  split <;> rfl

theorem reduceOption_watch (m : Monitor) (samples : List Sample) :
    (m.watch samples).reduceOption =
      ((m.last :: samples).destutter (· ≠ ·)).tail.map Sample.line := by
  rw [watch_changes, List.reduceOption_map, destutter_changes, List.tail_cons]

theorem replay_watch (m : Monitor) (samples : List Sample) :
    replay m.last ((m.watch samples).map fun line => line.bind Sample.ofLine?) = samples := by
  have read : (fun line => Option.bind line Sample.ofLine?) ∘ Option.map Sample.line = id := by
    funext change
    cases change <;> rfl
  rw [watch_changes, List.map_map, read, List.map_id, replay_changes]

theorem watch_printed {m : Monitor} {samples others : List Sample}
    (same : (m.watch samples).map (fun line => line.bind LogEvent.report?) =
      (m.watch others).map fun line => line.bind LogEvent.report?) : samples = others := by
  have printed : Function.Injective
      ((fun line => Option.bind line LogEvent.report?) ∘ Option.map Sample.line) := by
    intro one two equal
    cases one <;> cases two
    case none.none => rfl
    case some.some => exact congrArg some (Sample.report_injective equal)
    all_goals
      simp [Sample.report_line] at equal
  rw [watch_changes, watch_changes, List.map_map, List.map_map] at same
  have equal := List.map_injective_iff.2 printed same
  rw [← replay_changes m.last samples, equal, replay_changes]

-- A line for every change and for nothing else. What was sampled can be told from the lines and
-- their ticks, also from the lines as they are printed.
structure Reports (samples : List Sample) (lines : List (Option LogEvent)) : Prop where
  changes (k : Nat) : lines[k]? = samples[k]?.map fun now =>
    if (({} : Sample) :: samples)[k]? = some now then none else some now.line
  distinct : lines.reduceOption =
    ((({} : Sample) :: samples).destutter (· ≠ ·)).tail.map Sample.line
  recovered : replay {} (lines.map fun line => line.bind Sample.ofLine?) = samples
  printed (others : List Sample)
    (same : (({} : Monitor).watch others).map (fun line => line.bind LogEvent.report?) =
      lines.map fun line => line.bind LogEvent.report?) : others = samples

theorem watch_reports (samples : List Sample) :
    Reports samples (({} : Monitor).watch samples) where
  changes := getElem?_watch {} samples
  distinct := reduceOption_watch {} samples
  recovered := replay_watch {} samples
  printed _ same := watch_printed same

end Monitor

namespace Drain

variable {active : UInt64}

theorem poll_eq_none {d : Drain} : d.poll active = none ↔ active = 0 := by
  unfold Drain.poll
  split
  · rename_i nobody
    simp [nobody]
  · rename_i some
    split <;> simp [some]

theorem poll_busy (d : Drain) (busy : active ≠ 0) : d.poll active = some ({ reported := active },
    if active = d.reported then none else some (.waiting active)) := by
  rw [poll, if_neg busy]
  split
  · rename_i same
    rw [same]
  · rfl

theorem poll_eq_some {d later : Drain} {event : Option LogEvent} :
    d.poll active = some (later, event) ↔ active ≠ 0 ∧ later = { reported := active } ∧
      event = if active = d.reported then none else some (.waiting active) := by
  by_cases zero : active = 0
  · rw [poll_eq_none.2 zero]
    exact iff_of_false nofun fun parts => parts.1 zero
  · rw [poll_busy d zero, and_iff_right zero, Option.some.injEq, Prod.mk.injEq, eq_comm,
      @eq_comm _ _ event]

theorem watch_zero (d : Drain) (every now : Nat) (later : List UInt64) :
    d.watch every now (0 :: later) = ([], some now) := by
  rw [watch, poll_eq_none.2 rfl]

theorem watch_busy (d : Drain) (every now : Nat) (busy : active ≠ 0) (later : List UInt64) :
    d.watch every now (active :: later) =
      let seen := watch { reported := active } every (now + every) later
      ((now, if active = d.reported then none else some (.waiting active)) :: seen.1, seen.2) := by
  rw [watch, poll_busy d busy]

def occupied (samples : List UInt64) : List UInt64 := samples.takeWhile (· ≠ 0)

theorem occupied_zero (samples : List UInt64) : 0 ∉ occupied samples := by
  intro zero
  have busy := List.all_eq_true.1 List.all_takeWhile 0 zero
  exact absurd rfl (of_decide_eq_true busy)

theorem look_succ (now every k : Nat) : now + every + every * k = now + every * (k + 1) := by
  rw [Nat.mul_succ]
  omega

theorem watch_looks (d : Drain) (every now : Nat) (samples : List UInt64) (k : Nat) :
    (d.watch every now samples).1[k]? =
      (changes d.reported (occupied samples))[k]?.map fun change =>
        (now + every * k, change.map LogEvent.waiting) := by
  induction samples generalizing d now k with
  | nil => rfl
  | cons active samples ih =>
    by_cases busy : active = 0
    · rw [busy, watch_zero]
      rfl
    · have more : occupied (active :: samples) = active :: occupied samples :=
        List.takeWhile_cons_of_pos (by simpa using busy)
      rw [watch_busy d every now busy, more, changes]
      cases k with
      | zero =>
        by_cases same : active = d.reported <;> simp [same]
      | succ k =>
        dsimp only
        rw [List.getElem?_cons_succ, List.getElem?_cons_succ, ih, look_succ]

theorem watch_last (d : Drain) (every now : Nat) (samples : List UInt64) :
    (d.watch every now samples).2 = (samples.findIdx? (· = 0)).map (now + every * ·) := by
  induction samples generalizing d now with
  | nil => rfl
  | cons active samples ih =>
    by_cases busy : active = 0
    · rw [busy, watch_zero]
      rfl
    · have later : (active :: samples).findIdx? (· = 0) =
          (samples.findIdx? (· = 0)).map (· + 1) := by
        rw [List.findIdx?_cons, if_neg (by simpa using busy)]
      rw [watch_busy d every now busy, later, Option.map_map]
      dsimp only
      rw [ih]
      simp only [look_succ, Function.comp_def]

theorem watch_announced (d : Drain) (every now : Nat) (samples : List UInt64) :
    (d.watch every now samples).1.map Prod.snd =
      (changes d.reported (occupied samples)).map (Option.map LogEvent.waiting) := by
  apply List.ext_getElem?
  intro k
  rw [List.getElem?_map, watch_looks, List.getElem?_map, Option.map_map]
  rfl

theorem watch_isSome (d : Drain) (every now : Nat) (samples : List UInt64) :
    (d.watch every now samples).2.isSome = true ↔ 0 ∈ samples := by
  rw [watch_last, Option.isSome_map, List.findIdx?_isSome]
  simp

theorem occupied_before {samples : List UInt64} {k : Nat}
    (here : (occupied samples)[k]? = some active) :
    ((0 : UInt64) :: occupied samples)[k]? = ((0 : UInt64) :: samples)[k]? := by
  cases k with
  | zero => rfl
  | succ k =>
    obtain ⟨inside, _⟩ := List.getElem?_eq_some_iff.1 here
    have reached := Nat.lt_of_succ_lt inside
    have same := List.prefix_iff_getElem?.1 (List.takeWhile_prefix _) k reached
    rw [List.getElem?_cons_succ, List.getElem?_cons_succ]
    exact (List.getElem?_eq_getElem reached).trans same.symm

-- The waiting is over at the first sample that is zero. Up to then every change is announced, and
-- nothing else.
structure Awaits (every start : Nat) (samples : List UInt64)
    (seen : List (Nat × Option LogEvent) × Option Nat) : Prop where
  returns : seen.2 = (samples.findIdx? (· = 0)).map (start + every * ·)
  changes (k : Nat) : seen.1[k]? = (occupied samples)[k]?.map fun active =>
    (start + every * k,
      if ((0 : UInt64) :: samples)[k]? = some active then none else some (.waiting active))
  busy : ∀ look ∈ seen.1, look.2 ≠ some (.waiting 0)

theorem watch_awaits (every start : Nat) (samples : List UInt64) :
    Awaits every start samples (({} : Drain).watch every start samples) := by
  have each (k : Nat) : (({} : Drain).watch every start samples).1[k]? =
      (occupied samples)[k]?.map fun active => (start + every * k,
        if ((0 : UInt64) :: samples)[k]? = some active then none else some (.waiting active)) := by
    rw [watch_looks, getElem?_changes, Option.map_map]
    apply Option.map_congr
    intro active here
    rw [← occupied_before here, Function.comp_apply]
    split <;> rfl
  refine ⟨watch_last {} every start samples, each, ?_⟩
  intro look member
  obtain ⟨k, here⟩ := List.mem_iff_getElem?.1 member
  rw [each] at here
  obtain ⟨active, sampled, rfl⟩ := Option.map_eq_some_iff.1 here
  dsimp only
  split
  · nofun
  · rintro equal
    cases equal
    exact occupied_zero samples (List.mem_of_getElem? sampled)

end Drain

end GatedProxy
