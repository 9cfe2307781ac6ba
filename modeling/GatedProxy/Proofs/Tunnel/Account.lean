import GatedProxy.Proofs.Tunnel.Flow

namespace GatedProxy

namespace Counts

theorem plus_comm (a b : Counts) : a.plus b = b.plus a := by
  rw [plus, plus, UInt64.add_comm, UInt64.add_comm a.down]

theorem add_eq_plus (c : Counts) (d : Direction) (n : UInt64) : c.add d n = c.plus (.of d n) := by
  cases d <;> simp [add, of, plus]

theorem get_plus (a b : Counts) (d : Direction) : (a.plus b).get d = a.get d + b.get d := by
  cases d <;> rfl

theorem get_of (d which : Direction) (n : UInt64) :
    (of which n).get d = if which = d then n else 0 := by
  cases d <;> cases which <;> simp [of, add, get]

end Counts

namespace Journal

def recorded (d : Direction) : Journal → Nat
  | [] => 0
  | .counted which size :: rest => (if which = d then size else 0) + recorded d rest
  | _ :: rest => recorded d rest

theorem recorded_append (d : Direction) (j k : Journal) :
    (j ++ k).recorded d = j.recorded d + k.recorded d := by
  fun_induction recorded d j with
  | case1 => exact (Nat.zero_add _).symm
  | case2 which size rest ih => rw [List.cons_append, recorded, ih, Nat.add_assoc]
  | case3 o rest other ih =>
    rw [List.cons_append, recorded, ih]
    exact other

theorem Parting.recorded {j : Journal} (parting : j.Parting) (d : Direction) :
    j.recorded d = 0 := by
  induction j with
  | nil => rfl
  | cons o rest ih =>
    have later : Parting rest := fun x member => parting x (List.mem_cons_of_mem o member)
    have first := parting o (List.mem_cons_self ..)
    cases o with
    | counted which size => cases first
    | _ => exact ih later

theorem get_counted (d : Direction) (j : Journal) :
    j.counted.get d = UInt64.ofNat (j.recorded d) := by
  fun_induction recorded d j with
  | case1 => cases d <;> rfl
  | case2 which size rest ih =>
    rw [counted, Counts.get_plus, Counts.get_of, ih, UInt64.ofNat_add]
    split <;> rfl
  | case3 o rest other ih =>
    rw [counted, ih]
    exact other

end Journal

-- What puts an end to the copying of one direction. `unheld`: there was no buffer to begin with.
-- `cutOff` is for the one that did not finish first; `writing` says that it was in the middle of a
-- write.
inductive Stop where
  | unheld
  | endOfFile
  | readFailed (e : SystemError)
  | writeFailed (e : SystemError)
  | cutOff (writing : Bool)
  deriving DecidableEq, Repr

namespace Stop

def result? : Stop → Option (Option CopyError)
  | .unheld => some (some .unheld)
  | .endOfFile => some none
  | .readFailed e | .writeFailed e => some (some (.system e))
  | .cutOff _ => none

def isFailure : Stop → Bool
  | .unheld | .readFailed _ | .writeFailed _ => true
  | .endOfFile | .cutOff _ => false

def interrupts : Stop → Bool
  | .writeFailed _ | .cutOff true => true
  | .unheld | .endOfFile | .readFailed _ | .cutOff false => false

end Stop

namespace Tunnel

-- What an action makes of the copying of one direction, told from the call that it makes and not
-- from the state that it leads to.
def stop? (room : Nat) (t : Tunnel) (ends : Ends) (d : Direction) : Action → Option Stop
  | .copy which size =>
    if which = d then
      match t.loop d with
      | .reading =>
        if Limits.largest < room then some .unheld
        else
          match (ends.get d.source).read room with
          | some (.error e, _) => some (.readFailed e)
          | some (.ok [], _) => some .endOfFile
          | some (.ok (_ :: _), _) | none => none
      | .writing _ (byte :: left) =>
        match (ends.get d.sink).write (byte :: left) size with
        | some (.error e) => some (.writeFailed e)
        | some (.ok _) | none => none
      | .writing _ [] | .closing _ | .finished _ | .stopped => none
    else none
  | .settle _ => none
  | .abandon =>
    match t.first with
    | some (first, _) =>
      if first.other = d then
        match t.loop d with
        | .reading => some (.cutOff false)
        | .writing _ (_ :: _) => some (.cutOff true)
        | .writing _ [] | .closing _ | .finished _ | .stopped => none
      else none
    | none => none

end Tunnel

structure Short (room recorded delivered : Nat) (why : Stop) : Prop where
  counted : recorded ≤ delivered
  missed : delivered ≤ recorded + room
  exact : why.interrupts = false → recorded = delivered

-- How one direction stands: why it has stopped, if it has, and how its record compares with what
-- it has delivered.
def CopyLoop.Account (room recorded delivered : Nat) (whys : List Stop) : CopyLoop → Prop
  | .reading => whys = [] ∧ recorded = delivered
  | .writing total left =>
    whys = [] ∧ total ≤ room ∧ left.length ≤ total ∧ delivered + left.length = recorded + total
  | .closing result =>
    ∃ why, whys = [why] ∧ why.result? = some (result.map .system) ∧
      Short room recorded delivered why
  | .finished result =>
    ∃ why, whys = [why] ∧ why.result? = some result ∧ Short room recorded delivered why
  | .stopped => ∃ writing, whys = [.cutOff writing] ∧ Short room recorded delivered (.cutOff writing)

namespace Tunnel

variable {room recorded delivered : Nat} {t t' : Tunnel} {ends ends' : Ends} {journal : Journal}
  {d : Direction} {whys : List Stop}

theorem unheld_of_stop? {a : Action} (unheld : t.stop? room ends d a = some .unheld) :
    Limits.largest < room := by
  cases a with
  | copy which size =>
    simp only [stop?] at unheld
    split at unheld
    · split at unheld
      · split at unheld
        · assumption
        · split at unheld <;> cases unheld
      · split at unheld <;> cases unheld
      · cases unheld
      · cases unheld
      · cases unheld
      · cases unheld
    · cases unheld
  | settle which => cases unheld
  | abandon =>
    simp only [stop?] at unheld
    split at unheld
    · split at unheld
      · split at unheld <;> cases unheld
      · cases unheld
    · cases unheld

-- A direction that is cut off where it waits may have delivered a part of a write.
theorem cutOff_account {d : Direction} (first : t.first = some (d.other, result))
    (waits : (t.loop d).waits = true) (account : (t.loop d).Account room recorded delivered whys) :
    CopyLoop.Account room recorded delivered (whys ++ (t.stop? room ends d .abandon).toList)
      .stopped := by
  have other : d.other.other = d := by cases d <;> rfl
  cases loop : t.loop d with
  | reading =>
    have why : t.stop? room ends d .abandon = some (.cutOff false) := by
      simp [stop?, first, other, loop]
    rw [loop] at account
    obtain ⟨rfl, rfl⟩ := account
    rw [why]
    exact ⟨false, rfl, Nat.le_refl _, Nat.le_add_right _ _, fun _ => rfl⟩
  | writing total left =>
    rw [loop] at account waits
    obtain ⟨rfl, fits, part, same⟩ := account
    have more : left ≠ [] := by
      rintro rfl
      cases waits
    obtain ⟨byte, rest, rfl⟩ := List.exists_cons_of_ne_nil more
    have why : t.stop? room ends d .abandon = some (.cutOff true) := by
      simp [stop?, first, other, loop]
    rw [why]
    exact ⟨true, rfl, by omega, by omega, nofun⟩
  | closing result => rw [loop] at waits; cases waits
  | finished result => rw [loop] at waits; cases waits
  | stopped => rw [loop] at waits; cases waits

theorem Step.account (step : Step room t ends (.copy d size) (t', ends', journal))
    (account : (t.loop d).Account room recorded delivered whys) :
    (t'.loop d).Account room (recorded + journal.recorded d)
      (delivered + (journal.received d.sink).length)
      (whys ++ (t.stop? room ends d (.copy d size)).toList) := by
  cases step with
  | unheld loop large =>
    have why : t.stop? room ends d (.copy d size) = some .unheld := by simp [stop?, loop, large]
    rw [loop] at account
    obtain ⟨rfl, rfl⟩ := account
    rw [loop_setLoop, why]
    exact ⟨.unheld, rfl, rfl, Nat.le_refl _, Nat.le_add_right _ _, fun _ => rfl⟩
  | readFails loop fits took =>
    rename_i c e
    have why : t.stop? room ends d (.copy d size) = some (.readFailed e) := by
      simp [stop?, loop, fits, took]
    rw [loop] at account
    obtain ⟨rfl, rfl⟩ := account
    rw [loop_setLoop, why]
    exact ⟨.readFailed e, rfl, rfl, Nat.le_refl _, Nat.le_add_right _ _, fun _ => rfl⟩
  | readEnds loop fits took =>
    have why : t.stop? room ends d (.copy d size) = some .endOfFile := by
      simp [stop?, loop, fits, took]
    rw [loop] at account
    obtain ⟨rfl, rfl⟩ := account
    rw [loop_setLoop, why]
    exact ⟨.endOfFile, rfl, rfl, Nat.le_refl _, Nat.le_add_right _ _, fun _ => rfl⟩
  | reads loop held took full =>
    rename_i data source
    obtain ⟨byte, rest, rfl⟩ := List.exists_cons_of_ne_nil full
    have why : t.stop? room ends d (.copy d size) = none := by simp [stop?, loop, held, took]
    have fits : (byte :: rest).length ≤ room := by
      rw [(Connection.read_ok took).1]
      exact List.length_take_le room _
    rw [loop] at account
    obtain ⟨rfl, rfl⟩ := account
    rw [loop_setLoop, why]
    exact ⟨rfl, fits, Nat.le_refl _, rfl⟩
  | counts loop =>
    rename_i total
    have why : t.stop? room ends d (.copy d size) = none := by simp [stop?, loop]
    have counted : Journal.recorded d [.counted d total] = total := by simp [Journal.recorded]
    rw [loop] at account
    obtain ⟨rfl, _, _, same⟩ := account
    rw [loop_setLoop, why, counted]
    exact ⟨rfl, same.symm⟩
  | writeFails loop more wrote =>
    rename_i total left e
    obtain ⟨byte, rest, rfl⟩ := List.exists_cons_of_ne_nil more
    have why : t.stop? room ends d (.copy d size) = some (.writeFailed e) := by
      simp [stop?, loop, wrote]
    rw [loop] at account
    obtain ⟨rfl, fits, part, same⟩ := account
    rw [loop_setLoop, why]
    have short : Short room recorded delivered (.writeFailed e) := ⟨by omega, by omega, nofun⟩
    exact ⟨.writeFailed e, rfl, rfl, short⟩
  | writes loop more wrote =>
    rename_i total left accepted rest
    have why : t.stop? room ends d (.copy d size) = none := by
      obtain ⟨byte, bytes, rfl⟩ := List.exists_cons_of_ne_nil more
      simp [stop?, loop, wrote]
    have split : accepted.length + rest.length = left.length := by
      rw [← List.length_append, Connection.write_ok wrote]
    rw [loop] at account
    obtain ⟨rfl, fits, part, same⟩ := account
    rw [loop_setLoop, why, Journal.received_wrote]
    refine ⟨rfl, fits, by omega, ?_⟩
    have none : Journal.recorded d [.wrote d.sink accepted] = 0 := rfl
    omega
  | shutFails loop shut =>
    have why : t.stop? room ends d (.copy d size) = none := by simp [stop?, loop]
    rw [loop] at account
    rw [loop_setLoop, why, Option.toList_none, List.append_nil]
    exact account
  | shuts loop shut =>
    rename_i result closed
    have why : t.stop? room ends d (.copy d size) = none := by simp [stop?, loop]
    have quiet := Journal.Quiet.ended d.sink ((ends.get d.sink).endsAt closed = true)
    rw [loop] at account
    have parting := Journal.Parting.ended d.sink ((ends.get d.sink).endsAt closed = true)
    rw [loop_setLoop, why, quiet.received, parting.recorded, Option.toList_none, List.append_nil]
    exact account

theorem Step.account_other (step : Step room t ends (.copy d size) (t', ends', journal)) :
    journal.recorded d.other = 0 ∧ t.stop? room ends d.other (.copy d size) = none := by
  have differ : d ≠ d.other := by cases d <;> decide
  refine ⟨?_, if_neg differ⟩
  cases step with
  | counts loop => simp [Journal.recorded, differ]
  | shuts loop shut => exact (Journal.Parting.ended _ _).recorded _
  | _ => rfl

theorem Step.accounts (step : Step room t ends a (t', ends', journal)) (d : Direction)
    (account : (t.loop d).Account room recorded delivered whys) :
    (t'.loop d).Account room (recorded + journal.recorded d)
      (delivered + (journal.received d.sink).length) (whys ++ (t.stop? room ends d a).toList) := by
  cases a with
  | copy which size =>
    rcases eq_or_other d which with rfl | rfl
    · exact step.account account
    · obtain ⟨loop, received, _⟩ := step.apart
      obtain ⟨recorded, goes⟩ := step.account_other
      rw [loop, received, recorded, goes, Option.toList_none, List.append_nil]
      exact account
  | settle which =>
    cases step
    rw [stop?, Option.toList_none, List.append_nil]
    exact account
  | abandon =>
    cases step with
    | abandons first waits =>
      rename_i which result
      rcases eq_or_other d which.other with rfl | rfl
      · have same : which.other.other = which := by cases which <;> rfl
        rw [loop_setLoop]
        exact cutOff_account (same.symm ▸ first) waits account
      · have goes : t.stop? room ends which.other.other .abandon = none := by
          cases which <;> simp [stop?, first, Direction.other]
        rw [loop_setLoop_other, goes, Option.toList_none, List.append_nil]
        exact account

end Tunnel

end GatedProxy
