import GatedProxy.Proofs.Server.Step
import GatedProxy.Proofs.Text.Number

namespace GatedProxy

namespace SessionId

def stamp (nanoseconds : Int) : Nat := nanoseconds.toNat % 0x1000000000000

def serial (sequence : UInt64) : Nat := sequence.toNat % 0x100000000

structure Spelled (id : Text) : Prop where
  length : id.length = 20
  digits : ∀ c ∈ id, c ∈ Text.hexDigits

variable {sequence : UInt64} {readings : List Int} {window : List Text}

theorem render_parts (now : Int) (sequence : UInt64) :
    render now sequence = Text.hexPadded 12 (stamp now) ++ Text.hexPadded 8 (serial sequence) := rfl

theorem length_stamp (now : Int) : (Text.hexPadded 12 (stamp now)).length = 12 := by
  have small : stamp now < 0x1000000000000 := Nat.mod_lt _ (by decide)
  exact Text.length_hexPadded ((Nat.length_toDigits_le_iff (by decide) (by decide)).2 small)

theorem length_serial (sequence : UInt64) : (Text.hexPadded 8 (serial sequence)).length = 8 := by
  have small : serial sequence < 0x100000000 := Nat.mod_lt _ (by decide)
  exact Text.length_hexPadded ((Nat.length_toDigits_le_iff (by decide) (by decide)).2 small)

theorem render_spelled (now : Int) (sequence : UInt64) : Spelled (render now sequence) := by
  constructor
  · rw [render_parts, List.length_append, length_stamp, length_serial]
  · exact List.forall_mem_append.2 ⟨Text.mem_hexPadded 12 _, Text.mem_hexPadded 8 _⟩

theorem render_exact {now later : Int} {other : UInt64} :
    render now sequence = render later other ↔
      stamp now = stamp later ∧ serial sequence = serial other := by
  simp only [render_parts]
  constructor
  · intro same
    have widths := (length_stamp now).trans (length_stamp later).symm
    obtain ⟨stamps, serials⟩ := List.append_inj same widths
    refine ⟨?_, ?_⟩
    · rw [← Text.hexValue_padded 12 (stamp now), stamps, Text.hexValue_padded]
    · rw [← Text.hexValue_padded 8 (serial sequence), serials, Text.hexValue_padded]
  · intro same
    rw [same.1, same.2]

-- The counter has more bits than an id shows of it, so its wrapping does not show.
theorem serial_add (sequence : UInt64) (i : Nat) :
    serial (sequence + UInt64.ofNat i) = (sequence.toNat + i) % 0x100000000 := by
  rw [serial, UInt64.toNat_add, UInt64.toNat_ofNat']
  omega

theorem serial_exact {i j : Nat} :
    serial (sequence + UInt64.ofNat i) = serial (sequence + UInt64.ofNat j) ↔
      i % 0x100000000 = j % 0x100000000 := by
  rw [serial_add, serial_add]
  omega

theorem sequence_succ (sequence : UInt64) (i : Nat) :
    sequence + 1 + UInt64.ofNat i = sequence + UInt64.ofNat (i + 1) := by
  rw [UInt64.ofNat_add, UInt64.add_assoc, UInt64.add_comm 1]
  rfl

theorem getElem?_issue (sequence : UInt64) (readings : List Int) (i : Nat) :
    (issue sequence readings)[i]? =
      readings[i]?.map fun now => render now (sequence + UInt64.ofNat i) := by
  induction readings generalizing sequence i with
  | nil => rfl
  | cons now later ih =>
    cases i with
    | zero => simp [issue]
    | succ i =>
      rw [issue, List.getElem?_cons_succ, ih, sequence_succ]
      rfl

theorem issue_append (sequence : UInt64) (before later : List Int) :
    issue sequence (before ++ later) =
      issue sequence before ++ issue (sequence + UInt64.ofNat before.length) later := by
  induction before generalizing sequence with
  | nil => simp [issue]
  | cons now before ih => rw [List.cons_append, issue, ih, sequence_succ]; rfl

theorem length_issue (sequence : UInt64) (readings : List Int) :
    (issue sequence readings).length = readings.length := by
  induction readings generalizing sequence with
  | nil => rfl
  | cons now later ih => exact congrArg (· + 1) (ih (sequence + 1))

theorem mem_issue {id : Text} (member : id ∈ issue sequence readings) : Spelled id := by
  obtain ⟨i, found⟩ := List.mem_iff_getElem?.1 member
  rw [getElem?_issue] at found
  obtain ⟨now, _, rfl⟩ := Option.map_eq_some_iff.1 found
  exact render_spelled now _

theorem issue_same {i j : Nat} (one : readings[i]? = some now) (two : readings[j]? = some later) :
    (issue sequence readings)[i]? = (issue sequence readings)[j]? ↔
      stamp now = stamp later ∧ i % 0x100000000 = j % 0x100000000 := by
  rw [getElem?_issue, getElem?_issue, one, two, Option.map_some, Option.map_some, Option.some_inj,
    render_exact, serial_exact]

theorem window_nodup (part : window <:+: issue sequence readings)
    (short : window.length ≤ 0x100000000) : window.Nodup := by
  obtain ⟨start, fits, shown⟩ := List.infix_iff_getElem?.1 part
  rw [length_issue] at fits
  refine List.pairwise_iff_getElem.2 ?_
  intro i j early late before same
  have one : readings[i + start]? = some readings[i + start] := List.getElem?_eq_getElem (by omega)
  have two : readings[j + start]? = some readings[j + start] := List.getElem?_eq_getElem (by omega)
  have again : (issue sequence readings)[i + start]? = (issue sequence readings)[j + start]? := by
    rw [shown i early, shown j late, same]
  have rounds := ((issue_same one two).1 again).2
  omega

-- Whatever the clock does and wherever the counter stands, it takes as many calls as the number has
-- values until an id comes again.
theorem issue_distinct (sequence : UInt64) (readings : List Int) :
    (issue sequence readings).length = readings.length ∧
      (∀ id ∈ issue sequence readings, Spelled id) ∧
      (∀ window, window <:+: issue sequence readings → window.length ≤ 0x100000000 → window.Nodup) ∧
      ∀ (i j : Nat) now later, readings[i]? = some now → readings[j]? = some later →
        ((issue sequence readings)[i]? = (issue sequence readings)[j]? ↔
          stamp now = stamp later ∧ i % 0x100000000 = j % 0x100000000) :=
  ⟨length_issue sequence readings, fun _ => mem_issue, fun _ => window_nodup,
    fun _ _ _ _ => issue_same⟩

theorem issue_distinct_wrapped :
    let readings : List Int := [0xffffffffffff, 0, 0, -7, 0x1000000000000]
    let ids := issue 0xfffffffffffffffe readings
    ids.Nodup ∧ ∀ id ∈ ids, Spelled id := by
  intro readings ids
  obtain ⟨_, spelled, distinct, _⟩ := issue_distinct 0xfffffffffffffffe readings
  exact ⟨distinct ids List.infix_rfl (by decide), spelled⟩

end SessionId

def ServerJournal.ids (j : ServerJournal) : List Text :=
  j.filterMap fun
    | .log (.connected _ id) => some id
    | .log _ | .session _ _ => none

namespace Server

def Action.reading? : Action → Option Int
  | .start _ now => some now
  | .accept _ | .acceptFails _ | .session _ _ | .leave _ | .stop | .poll | .tick => none

def readings (actions : List Action) : List Int := actions.filterMap Action.reading?

variable {p : Policy} {s t : Server} {actions : List Action} {j : ServerJournal}

theorem poll_ids {d later : Drain} (looked : d.poll active = some (later, event)) :
    ServerJournal.ids (event.toList.map .log) = [] := by
  unfold Drain.poll at looked
  split at looked
  · cases looked
  · split at looked <;> cases looked <;> rfl

theorem tick_ids (s : Server) : s.tick.2.ids = [] := by
  by_cases same : s.sample = s.monitor.last <;> simp [tick, Monitor.tick, same, ServerJournal.ids]

theorem session_ids (which : Nat) (j : Journal) :
    ServerJournal.ids (j.map (.session which)) = [] := by
  induction j with
  | nil => rfl
  | cons o j ih => exact ih

theorem Step.ids (step : Step p s a moved) :
    moved.2.ids = SessionId.issue s.sequence a.reading?.toList ∧
      moved.1.sequence = s.sequence + UInt64.ofNat a.reading?.toList.length := by
  have still : s.sequence = s.sequence + UInt64.ofNat 0 := (UInt64.add_zero _).symm
  cases step with
  | accept gate => exact ⟨rfl, still⟩
  | acceptFails gate => exact ⟨rfl, still⟩
  | start held stage => exact ⟨rfl, rfl⟩
  | session held permitted moves => exact ⟨session_ids _ _, still⟩
  | leave held stage finished =>
    refine ⟨?_, still⟩
    cases Session.result? _ <;> rfl
  | stop gate => exact ⟨rfl, still⟩
  | waits gate looked => exact ⟨poll_ids looked, still⟩
  | returns gate looked => exact ⟨rfl, still⟩
  | tick => exact ⟨tick_ids s, still⟩

theorem Ran.ids (ran : Ran p s actions t j) :
    j.ids = SessionId.issue s.sequence (readings actions) ∧
      t.sequence = s.sequence + UInt64.ofNat (readings actions).length := by
  induction ran with
  | start => exact ⟨rfl, (UInt64.add_zero _).symm⟩
  | step path step ih =>
    rename_i actions before journal a moved
    obtain ⟨earlier, counted⟩ := ih
    obtain ⟨now, next⟩ := step.ids
    have grown : readings (actions ++ [a]) = readings actions ++ a.reading?.toList := by
      cases read : a.reading? <;> simp [readings, read]
    have joined : ServerJournal.ids (journal ++ moved.2) =
      ServerJournal.ids journal ++ ServerJournal.ids moved.2 := List.filterMap_append
    rw [grown, SessionId.issue_append, ← counted, joined, earlier, now, next, counted,
      List.length_append, UInt64.ofNat_add, UInt64.add_assoc]
    exact ⟨rfl, rfl⟩

theorem ids_nodup (ran : run p s actions = some (t, j))
    (few : (readings actions).length ≤ 0x100000000) : j.ids.Nodup := by
  rw [(Ran.ids (run_exact.1 ran)).1]
  refine SessionId.window_nodup List.infix_rfl ?_
  rw [SessionId.length_issue]
  exact few

end Server

end GatedProxy
