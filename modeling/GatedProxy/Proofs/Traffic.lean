import GatedProxy.Traffic
import Mathlib.Algebra.BigOperators.Group.List.Basic
import Mathlib.Data.UInt
import Mathlib.Logic.Relation

namespace GatedProxy

def Counts.Grows (d : Direction) (n : UInt64) (c grown : Counts) : Prop :=
  ∀ e, grown.get e = c.get e + if d = e then n else 0

theorem Counts.get_add (c : Counts) (d e : Direction) (n : UInt64) :
    (c.add d n).get e = c.get e + if d = e then n else 0 := by
  cases d <;> cases e <;> simp [add, get]

namespace Ledger

def Action.makesHandle : Action → Bool
  | .openTunnel | .share _ => true
  | .countLocally .. | .countTotal _ | .openApart | .countApart .. => false

def made (actions : List Action) : Nat := actions.countP Action.makesHandle

def openers (next : Nat) : List Action → List Nat
  | [] => []
  | .openTunnel :: later => next :: openers (next + 1) later
  | .share _ :: later => openers (next + 1) later
  | .countLocally .. :: later | .countTotal _ :: later | .openApart :: later
  | .countApart .. :: later => openers next later

def Cloned (actions : List Action) (clone handle : Nat) : Prop :=
  ∃ before later, actions = before ++ .share handle :: later ∧ clone = made before

-- Handles that were cloned from one another, in any number of steps and in either direction.
def Kin (actions : List Action) : Nat → Nat → Prop := Relation.EqvGen (Cloned actions)

def due (l : Ledger) (d : Direction) : UInt64 :=
  (l.pending.map fun r => if r.1 = d then r.2 else 0).sum

def counted (l : Ledger) (d : Direction) : UInt64 := (l.tunnels.map fun c => c.get d).sum

inductive Step (l : Ledger) : Action → Ledger → Prop where
  | opens : Step l .openTunnel
      { l with tunnels := l.tunnels ++ [{}], handles := l.handles ++ [l.tunnels.length] }
  | shares (held : l.handles[handle]? = some tunnel) :
      Step l (.share handle) { l with handles := l.handles ++ [tunnel] }
  | counts (held : l.handles[handle]? = some tunnel) :
      Step l (.countLocally handle d n)
        { l with
          tunnels := l.tunnels.modify tunnel fun c => c.add d n
          pending := l.pending ++ [(d, n)] }
  | settles (owed : l.pending[which]? = some (d, n)) :
      Step l (.countTotal which)
        { l with totals := l.totals.add d n, pending := l.pending.eraseIdx which }
  | opensApart : Step l .openApart { l with apart := l.apart ++ [{}] }
  | countsApart (there : which < l.apart.length) :
      Step l (.countApart d n which)
        { l with apart := l.apart.modify which fun c => c.add d n }

inductive Ran (origin : Ledger) : List Action → Ledger → Prop where
  | start : Ran origin [] origin
  | step (path : Ran origin actions l) (step : Step l a m) : Ran origin (actions ++ [a]) m

variable {origin l m : Ledger} {a : Action} {actions : List Action} {before : Counts}

theorem act_sound (acted : l.act a = some m) : Step l a m := by
  cases a with
  | openTunnel => cases acted; exact .opens
  | share handle =>
    obtain ⟨tunnel, held, equal⟩ := Option.bind_eq_some_iff.1 acted
    cases equal
    exact .shares held
  | countLocally handle d n =>
    obtain ⟨tunnel, held, equal⟩ := Option.bind_eq_some_iff.1 acted
    cases equal
    exact .counts held
  | countTotal which =>
    obtain ⟨⟨d, n⟩, owed, equal⟩ := Option.bind_eq_some_iff.1 acted
    cases equal
    exact .settles owed
  | openApart => cases acted; exact .opensApart
  | countApart d n which =>
    rw [act] at acted
    split at acted
    · rename_i there
      cases acted
      exact .countsApart there
    · cases acted

theorem act_complete (step : Step l a m) : l.act a = some m := by
  cases step with
  | opens => rfl
  | shares held => simp [act, held]
  | counts held => simp [act, held]
  | settles owed => simp [act, owed]
  | opensApart => rfl
  | countsApart there => exact if_pos there

theorem act_exact : l.act a = some m ↔ Step l a m := ⟨act_sound, act_complete⟩

theorem run_snoc (origin : Ledger) (actions : List Action) (a : Action) :
    origin.run (actions ++ [a]) = (origin.run actions).bind fun l => l.act a := by
  induction actions generalizing origin with
  | nil =>
    change (origin.act a).bind some = origin.act a
    exact Option.bind_fun_some _
  | cons b actions ih =>
    change (origin.act b).bind _ = ((origin.act b).bind _).bind _
    rw [Option.bind_assoc]
    exact congrArg _ (funext ih)

theorem run_sound (ran : origin.run actions = some l) : Ran origin actions l := by
  induction actions using List.reverseRecOn generalizing l with
  | nil =>
    cases ran
    exact .start
  | append_singleton actions a ih =>
    rw [run_snoc] at ran
    obtain ⟨middle, path, acted⟩ := Option.bind_eq_some_iff.1 ran
    exact .step (ih path) (act_sound acted)

theorem Step.held {i tunnel : Nat} (step : Step l a m) (held : l.handles[i]? = some tunnel) :
    m.handles[i]? = some tunnel := by
  obtain ⟨inside, _⟩ := List.getElem?_eq_some_iff.1 held
  cases step with
  | opens | shares => exact (List.getElem?_append_left inside).trans held
  | _ => exact held

theorem Step.made (step : Step l a m) (handles : l.handles.length = made actions) :
    m.handles.length = Ledger.made (actions ++ [a]) := by
  rw [Ledger.made, List.countP_append, ← Ledger.made, ← handles]
  cases step <;> simp [Action.makesHandle]

theorem openers_append (next : Nat) (actions later : List Action) :
    openers next (actions ++ later) =
      openers next actions ++ openers (next + Ledger.made actions) later := by
  induction actions generalizing next with
  | nil => rfl
  | cons a rest ih =>
    cases a <;> simp [openers, ih, Ledger.made, List.countP_cons, Action.makesHandle,
      Nat.add_comm, Nat.add_left_comm]

theorem Cloned.snoc (cloned : Cloned actions clone handle) (a : Action) :
    Cloned (actions ++ [a]) clone handle := by
  obtain ⟨before, later, rfl, number⟩ := cloned
  exact ⟨before, later ++ [a], by simp, number⟩

theorem cloned_snoc (cloned : Cloned (actions ++ [a]) clone handle) :
    Cloned actions clone handle ∨ a = .share handle ∧ clone = Ledger.made actions := by
  obtain ⟨before, later, split, number⟩ := cloned
  rcases List.eq_nil_or_concat later with rfl | ⟨middle, last, rfl⟩
  · obtain ⟨rfl, same⟩ := List.append_inj' split rfl
    cases same
    exact .inr ⟨rfl, number⟩
  · rw [List.concat_eq_append, ← List.cons_append, ← List.append_assoc] at split
    obtain ⟨rfl, _⟩ := List.append_inj' split rfl
    exact .inl ⟨before, middle, rfl, number⟩

theorem Kin.snoc (kin : Kin actions i j) (a : Action) : Kin (actions ++ [a]) i j := by
  apply Relation.EqvGen.mono _ i j kin
  intro clone handle cloned
  exact Cloned.snoc cloned a

theorem sum_modify (tunnels : List Counts) {k : Nat} (inside : k < tunnels.length)
    (d e : Direction) (n : UInt64) :
    ((tunnels.modify k fun c => c.add d n).map fun c => c.get e).sum =
      (tunnels.map fun c => c.get e).sum + if d = e then n else 0 := by
  induction tunnels generalizing k with
  | nil => cases inside
  | cons c tunnels ih =>
    cases k with
    | zero => simp [Counts.get_add, UInt64.add_assoc, UInt64.add_comm]
    | succ k =>
      have later := ih (Nat.lt_of_succ_lt_succ inside)
      simp [later, UInt64.add_assoc]

theorem sum_eraseIdx (pending : List (Direction × UInt64)) {which : Nat}
    (owed : pending[which]? = some (d, n)) (e : Direction) :
    ((pending.eraseIdx which).map fun r => if r.1 = e then r.2 else 0).sum +
        (if d = e then n else 0) =
      (pending.map fun r => if r.1 = e then r.2 else 0).sum := by
  induction pending generalizing which with
  | nil => cases owed
  | cons r pending ih =>
    cases which with
    | zero =>
      cases owed
      simp [UInt64.add_comm]
    | succ which =>
      have later := ih owed
      simp [← later, UInt64.add_assoc]

def Served (l : Ledger) : Prop := ∀ tunnel ∈ l.handles, tunnel < l.tunnels.length

theorem handle_snoc {handles : List Nat} {i tunnel last : Nat}
    (held : (handles ++ [last])[i]? = some tunnel) :
    handles[i]? = some tunnel ∨ i = handles.length ∧ tunnel = last := by
  rw [List.getElem?_append] at held
  split at held
  · exact .inl held
  · rename_i past
    rw [List.getElem?_singleton] at held
    split at held
    · cases held
      exact .inr ⟨by omega, rfl⟩
    · cases held

theorem Step.served (step : Step l a m) (served : l.Served) : m.Served := by
  intro tunnel member
  cases step with
  | opens =>
    rw [List.length_append]
    rcases List.mem_append.1 member with old | new
    · exact Nat.lt_add_right _ (served tunnel old)
    · cases List.mem_singleton.1 new
      exact Nat.lt_add_one _
  | shares held =>
    rcases List.mem_append.1 member with old | new
    · exact served tunnel old
    · cases List.mem_singleton.1 new
      exact served _ (List.mem_of_getElem? held)
  | counts held =>
    rw [List.length_modify]
    exact served tunnel member
  | _ => exact served tunnel member

theorem Step.balance (step : Step l a m) (served : l.Served) {total : UInt64}
    (balance : l.totals.get d + l.due d = total + l.counted d) :
    m.totals.get d + m.due d = total + m.counted d := by
  cases step with
  | opens =>
    have none : ({} : Counts).get d = 0 := by cases d <;> rfl
    simpa [due, counted, none] using balance
  | counts held =>
    have counts := sum_modify l.tunnels (served _ (List.mem_of_getElem? held))
    simp [due, counted, counts] at balance ⊢
    rw [← UInt64.add_assoc, balance, UInt64.add_assoc]
  | settles owed =>
    have paid := sum_eraseIdx l.pending owed d
    simp only [due, counted, Counts.get_add, ← paid] at balance ⊢
    rw [← balance, UInt64.add_assoc]
    congr 1
    exact UInt64.add_comm _ _
  | _ => exact balance

-- What a ledger owes to its history, and to the totals at its beginning.
structure Kept (before : Counts) (actions : List Action) (l : Ledger) : Prop where
  served : l.Served
  handles : l.handles.length = Ledger.made actions
  openers : (Ledger.openers 0 actions).map (fun handle => l.handles[handle]?) =
    (List.range l.tunnels.length).map some
  cloned : ∀ clone handle, Cloned actions clone handle →
    ∃ tunnel, l.handles[clone]? = some tunnel ∧ l.handles[handle]? = some tunnel
  kin : ∀ i j tunnel : Nat,
    l.handles[i]? = some tunnel → l.handles[j]? = some tunnel → Kin actions i j
  balance : ∀ d, l.totals.get d + l.due d = before.get d + l.counted d

namespace Kept

theorem start (before : Counts) (apart : List Counts) :
    Kept before [] { totals := before, apart } where
  served := List.forall_mem_nil _
  handles := rfl
  openers := rfl
  cloned := by
    intro clone handle cloned
    obtain ⟨front, later, split, _⟩ := cloned
    simp at split
  kin := by
    intro i j tunnel held
    cases held
  balance := by
    intro d
    rfl

theorem openers_snoc (kept : Kept before actions l) (step : Step l a m) :
    (Ledger.openers 0 (actions ++ [a])).map (fun handle => m.handles[handle]?) =
      (List.range m.tunnels.length).map some := by
  have old : (Ledger.openers 0 actions).map (fun handle => m.handles[handle]?) =
      (List.range l.tunnels.length).map some := by
    rw [← kept.openers]
    apply List.map_congr_left
    intro handle member
    have there : l.handles[handle]? ∈ (List.range l.tunnels.length).map some := by
      rw [← kept.openers]
      exact List.mem_map_of_mem member
    obtain ⟨tunnel, _, held⟩ := List.mem_map.1 there
    rw [← held]
    exact step.held held.symm
  rw [openers_append, List.map_append, old, Nat.zero_add]
  cases step with
  | opens => simp [Ledger.openers, List.range_succ, ← kept.handles]
  | _ => simp [Ledger.openers]

theorem cloned_snoc (kept : Kept before actions l) (step : Step l a m)
    (cloned : Cloned (actions ++ [a]) clone handle) :
    ∃ tunnel, m.handles[clone]? = some tunnel ∧ m.handles[handle]? = some tunnel := by
  rcases Ledger.cloned_snoc cloned with cloned | ⟨rfl, rfl⟩
  · obtain ⟨tunnel, one, two⟩ := kept.cloned clone handle cloned
    exact ⟨tunnel, step.held one, step.held two⟩
  · cases step with
    | shares held =>
      rename_i tunnel
      refine ⟨tunnel, ?_, Step.held (.shares held) held⟩
      rw [← kept.handles]
      exact List.getElem?_concat_length

theorem kin_snoc (kept : Kept before actions l) (step : Step l a m) {i j tunnel : Nat}
    (one : m.handles[i]? = some tunnel) (two : m.handles[j]? = some tunnel) :
    Kin (actions ++ [a]) i j := by
  have old {i j tunnel : Nat} (one : l.handles[i]? = some tunnel)
      (two : l.handles[j]? = some tunnel) : Kin (actions ++ [a]) i j :=
    (kept.kin i j tunnel one two).snoc a
  cases step with
  | opens =>
    have fresh {k : Nat} : l.handles[k]? ≠ some l.tunnels.length := fun held =>
      Nat.lt_irrefl _ (kept.served _ (List.mem_of_getElem? held))
    rcases handle_snoc one with one | ⟨rfl, rfl⟩ <;> rcases handle_snoc two with two | ⟨rfl, same⟩
    · exact old one two
    · exact absurd (same ▸ one) fresh
    · exact absurd two fresh
    · exact .refl _
  | shares held =>
    rename_i shared last
    have clone : Kin (actions ++ [.share shared]) l.handles.length shared :=
      .rel _ _ ⟨actions, [], rfl, kept.handles⟩
    have earlier {k : Nat} (there : (l.handles ++ [last])[k]? = some tunnel) :
        ∃ first, l.handles[first]? = some tunnel ∧ Kin (actions ++ [.share shared]) k first := by
      rcases handle_snoc there with there | ⟨rfl, rfl⟩
      · exact ⟨k, there, .refl k⟩
      · exact ⟨shared, held, clone⟩
    obtain ⟨first, there, from_⟩ := earlier one
    obtain ⟨second, too, into⟩ := earlier two
    exact .trans _ _ _ from_ (.trans _ _ _ (old there too) (.symm _ _ into))
  | _ => exact old one two

theorem step (kept : Kept before actions l) (step : Step l a m) :
    Kept before (actions ++ [a]) m where
  served := step.served kept.served
  handles := step.made kept.handles
  openers := kept.openers_snoc step
  cloned := fun _ _ => kept.cloned_snoc step
  kin := fun _ _ _ => kept.kin_snoc step
  balance := fun d => step.balance kept.served (kept.balance d)

theorem tunnels (kept : Kept before actions l) :
    (Ledger.openers 0 actions).map l.read = l.tunnels := by
  have read (numbered : List (Option Nat)) (handles : List Nat)
      (same : handles.map (fun handle => l.handles[handle]?) = numbered) :
      handles.map l.read =
        numbered.map fun number => (number.bind fun tunnel => l.tunnels[tunnel]?).getD {} := by
    rw [← same, List.map_map]
    rfl
  rw [read _ _ kept.openers, List.map_map]
  apply List.ext_getElem
  · simp
  · intro i one two
    simp [two]

theorem held (kept : Kept before actions l) (there : handle < Ledger.made actions) :
    ∃ tunnel, l.handles[handle]? = some tunnel := by
  rw [← kept.handles] at there
  exact ⟨_, List.getElem?_eq_getElem there⟩

theorem same (kept : Kept before actions l) (kin : Kin actions i j) :
    l.handles[i]? = l.handles[j]? := by
  induction kin with
  | rel clone handle cloned =>
    obtain ⟨tunnel, one, two⟩ := kept.cloned clone handle cloned
    rw [one, two]
  | refl => rfl
  | symm i j _ ih => exact ih.symm
  | trans i j k _ _ one two => exact one.trans two

theorem counts (kept : Kept before actions l) (there : handle < Ledger.made actions)
    (d : Direction) (n : UInt64) :
    ∃ m, l.act (.countLocally handle d n) = some m ∧ m.totals = l.totals ∧
      m.pending = l.pending ++ [(d, n)] ∧ ∀ other < Ledger.made actions,
        (Kin actions handle other → (l.read other).Grows d n (m.read other)) ∧
        (¬ Kin actions handle other → m.read other = l.read other) := by
  obtain ⟨tunnel, held⟩ := kept.held there
  refine ⟨_, act_complete (.counts held), rfl, rfl, ?_⟩
  intro other among
  obtain ⟨number, owned⟩ := kept.held among
  have inside : number < l.tunnels.length := kept.served _ (List.mem_of_getElem? owned)
  constructor
  · intro kin e
    have same := kept.same kin
    rw [held, owned] at same
    cases same
    simp [read, owned, List.getElem?_modify, inside, Counts.get_add]
  · intro strange
    have differ : tunnel ≠ number := by
      rintro rfl
      exact strange (kept.kin handle other tunnel held owned)
    simp [read, owned, List.getElem?_modify, differ]

end Kept

theorem Ran.kept {apart : List Counts} (ran : Ran { totals := before, apart } actions l) :
    Kept before actions l := by
  induction ran with
  | start => exact .start before apart
  | step path step ih => exact ih.step step

-- What the totals have grown by, with what is still to be added, is the sum of what the tunnels
-- have counted, each of them once for all its handles. A record changes its own tunnel and later
-- the totals, in one direction, and counters that stand apart change neither.
theorem totals_conserved {apart : List Counts}
    (ran : Ledger.run { totals := before, apart } actions = some l) :
    (∀ d, l.totals.get d + l.due d =
      before.get d + ((openers 0 actions).map fun handle => (l.read handle).get d).sum) ∧
    (∀ i j, Kin actions i j → l.read i = l.read j) ∧
    (∀ handle < Ledger.made actions, ∀ d n,
      ∃ m, l.act (.countLocally handle d n) = some m ∧ m.totals = l.totals ∧
        m.pending = l.pending ++ [(d, n)] ∧ ∀ other < Ledger.made actions,
          (Kin actions handle other → (l.read other).Grows d n (m.read other)) ∧
          (¬ Kin actions handle other → m.read other = l.read other)) ∧
    (∀ (which : Nat) d n, l.pending[which]? = some (d, n) →
      ∃ m, l.act (.countTotal which) = some m ∧ l.totals.Grows d n m.totals ∧
        m.pending = l.pending.eraseIdx which ∧ m.read = l.read) ∧
    ∀ which < l.apart.length, ∀ d n, ∃ m, l.act (.countApart d n which) = some m ∧
      m.totals = l.totals ∧ m.pending = l.pending ∧ m.read = l.read := by
  have kept := (run_sound ran).kept
  refine ⟨?_, ?_, fun handle there d n => kept.counts there d n, ?_, ?_⟩
  · intro d
    rw [kept.balance, counted, ← kept.tunnels, List.map_map]
    rfl
  · intro i j kin
    rw [read, read, kept.same kin]
  · intro which d n owed
    exact ⟨_, act_complete (.settles owed), fun e => Counts.get_add _ d e n, rfl, rfl⟩
  · intro which there d n
    exact ⟨_, act_complete (.countsApart there), rfl, rfl, rfl⟩

theorem totals_conserved_wrapped :
    let origin : Ledger := { totals := { up := 0xffffffffffffffff } }
    let actions : List Action := [.openTunnel, .share 0, .openTunnel, .share 1,
      .countLocally 3 .up 5, .countLocally 2 .up 0xffffffffffffffff, .countApart .up 7, .countTotal 1]
    ∃ l, origin.run actions = some l ∧ l.due .up = 5 ∧ l.totals.get .up + l.due .up = 3 ∧
      l.read 0 = l.read 3 ∧
      ∃ m, l.act (.countLocally 0 .down 1) = some m ∧ (m.read 3).get .down = 1 ∧
        m.read 2 = l.read 2 ∧ m.totals = l.totals := by
  intro origin actions
  obtain ⟨l, ran⟩ : ∃ l, origin.run actions = some l := ⟨_, rfl⟩
  have clone : Cloned actions 1 0 := ⟨actions.take 1, actions.drop 2, rfl, rfl⟩
  have again : Cloned actions 3 1 := ⟨actions.take 3, actions.drop 4, rfl, rfl⟩
  have kin : Kin actions 0 3 := .symm _ _ (.trans _ _ _ (.rel _ _ again) (.rel _ _ clone))
  obtain ⟨balance, same, counts, _, _⟩ := totals_conserved ran
  have last : (origin.run actions).any (fun l => l.due .up = 5 ∧ l.read 3 = { up := 5 } ∧
      l.read 2 = { up := 0xffffffffffffffff }) = true := by decide +kernel
  rw [ran] at last
  obtain ⟨due, three, two⟩ := of_decide_eq_true last
  have strange : ¬ Kin actions 0 2 := by
    intro other
    have equal := (same 0 3 kin).symm.trans (same 0 2 other)
    rw [three, two] at equal
    cases equal
  obtain ⟨m, acted, totals, _, reads⟩ := counts 0 (by decide) .down 1
  refine ⟨l, ran, due, ?_, same 0 3 kin, m, acted, ?_, (reads 2 (by decide)).2 strange, totals⟩
  · have opened : openers 0 actions = [0, 2] := rfl
    rw [balance, opened, List.map_cons, List.map_singleton, same 0 3 kin, three, two]
    rfl
  · rw [(reads 3 (by decide)).1 kin, three]
    rfl

end Ledger

end GatedProxy
