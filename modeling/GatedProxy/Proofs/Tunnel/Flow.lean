import GatedProxy.Proofs.Connection
import GatedProxy.Proofs.Session.Journal
import GatedProxy.Proofs.Tunnel.Step
import GatedProxy.Tunnel.Work

namespace GatedProxy

-- How much of what a copy loop has taken it has delivered, by the state that it is in.
def CopyLoop.Flow (delivered taken : Bytes) : CopyLoop → Prop
  | .writing _ left => delivered ++ left = taken
  | .reading | .closing none | .finished none => delivered = taken
  | .closing (some _) | .finished (some _) | .stopped => delivered <+: taken

theorem CopyLoop.Flow.part {l : CopyLoop} (flow : l.Flow delivered taken) :
    delivered <+: taken := by
  have equal (same : delivered = taken) : delivered <+: taken := by
    subst same
    exact List.prefix_rfl
  cases l with
  | reading => exact equal flow
  | writing total left => exact ⟨left, flow⟩
  | closing result =>
    cases result with
    | none => exact equal flow
    | some e => exact flow
  | finished result =>
    cases result with
    | none => exact equal flow
    | some e => exact flow
  | stopped => exact flow

def CopyLoop.atEnd : CopyLoop → Bool
  | .closing none | .finished none => true
  | _ => false

def CopyLoop.isIdle : CopyLoop → Bool
  | .reading | .finished (some .unheld) | .stopped => true
  | _ => false

theorem CopyLoop.error_of_idle (idle : (finished error).isIdle = true) : error = some .unheld := by
  cases error with
  | none => cases idle
  | some e =>
    cases e with
    | system e => cases idle
    | unheld => rfl

namespace Tunnel

variable {room : Nat} {t t' : Tunnel} {ends ends' : Ends} {journal : Journal} {d : Direction}

theorem eq_or_other (which d : Direction) : which = d ∨ which = d.other := by
  cases which <;> cases d <;> decide

theorem loop_setLoop_other (t : Tunnel) (d : Direction) (l : CopyLoop) :
    (t.setLoop d l).loop d.other = t.loop d.other := by
  cases d <;> rfl

theorem get_set (ends : Ends) (who : End) (c : Connection) : (ends.set who c).get who = c := by
  cases who <;> rfl

theorem get_set_other (ends : Ends) {who other : End} (c : Connection) (differ : who ≠ other) :
    (ends.set who c).get other = ends.get other := by
  cases who <;> cases other
  · exact absurd rfl differ
  · rfl
  · rfl
  · exact absurd rfl differ

theorem Step.apart (step : Step room t ends (.copy d size) (t', ends', journal)) :
    t'.loop d.other = t.loop d.other ∧ journal.received d.other.sink = [] ∧
      journal.taken d.other.source = [] := by
  cases step with
  | shuts loop shut =>
    have quiet := Journal.Quiet.ended d.sink
    exact ⟨loop_setLoop_other t d _, (quiet _).received _, (quiet _).taken _⟩
  | _ => cases d <;> exact ⟨rfl, rfl, rfl⟩

theorem Step.carries (step : Step room t ends (.copy d size) (t', ends', journal))
    (flow : (t.loop d).Flow delivered taken) :
    (t'.loop d).Flow (delivered ++ journal.received d.sink) (taken ++ journal.taken d.source) := by
  cases step with
  | unheld loop large =>
    rw [loop] at flow
    rw [loop_setLoop]
    have same : delivered = taken := flow
    simp [CopyLoop.Flow, Journal.received, Journal.taken, same]
  | readFails loop fits took =>
    rw [loop] at flow
    rw [loop_setLoop]
    have same : delivered = taken := flow
    simp [CopyLoop.Flow, Journal.received, Journal.taken, same]
  | readEnds loop fits took =>
    rw [loop] at flow
    rw [loop_setLoop, Journal.taken_read]
    have same : delivered = taken := flow
    simp [CopyLoop.Flow, Journal.received, same]
  | reads loop fits took full =>
    rw [loop] at flow
    rw [loop_setLoop, Journal.taken_read]
    have same : delivered = taken := flow
    simp [CopyLoop.Flow, Journal.received, same]
  | counts loop =>
    rw [loop] at flow
    rw [loop_setLoop]
    simpa [CopyLoop.Flow, Journal.received, Journal.taken] using flow
  | writeFails loop more wrote =>
    rw [loop] at flow
    rw [loop_setLoop]
    have part := flow.part
    simpa [CopyLoop.Flow, Journal.received, Journal.taken] using part
  | writes loop more wrote =>
    rw [loop] at flow
    rw [loop_setLoop, Journal.received_wrote]
    have split := Connection.write_ok wrote
    rw [← split] at flow
    simpa [CopyLoop.Flow, Journal.taken] using flow
  | shutFails loop shut =>
    rename_i result e
    rw [loop] at flow
    rw [loop_setLoop]
    cases result <;> simpa [CopyLoop.Flow, Journal.received, Journal.taken] using flow
  | shuts loop shut =>
    rename_i result closed
    rw [loop] at flow
    rw [loop_setLoop]
    have quiet := Journal.Quiet.ended d.sink ((ends.get d.sink).endsAt closed = true)
    rw [quiet.received, quiet.taken, List.append_nil, List.append_nil]
    cases result <;> exact flow

theorem Step.flow (step : Step room t ends a (t', ends', journal)) (d : Direction)
    (flow : (t.loop d).Flow delivered taken) :
    (t'.loop d).Flow (delivered ++ journal.received d.sink) (taken ++ journal.taken d.source) := by
  cases a with
  | copy which size =>
    rcases eq_or_other d which with rfl | rfl
    · exact step.carries flow
    · obtain ⟨loop, received, taken⟩ := step.apart
      rw [loop, received, taken, List.append_nil, List.append_nil]
      exact flow
  | settle which =>
    cases step
    simp only [Journal.received, Journal.taken, List.flatMap_nil, List.append_nil]
    exact flow
  | abandon =>
    cases step with
    | abandons first waits =>
      rename_i which result
      simp only [Journal.received, Journal.taken, List.flatMap_nil, List.append_nil]
      -- What the stopped loop had yet to write is lost, so its own flow is only a prefix.
      rcases eq_or_other d which.other with rfl | rfl
      · rw [loop_setLoop]
        exact flow.part
      · rw [loop_setLoop_other]
        exact flow

theorem read_conserves (took : (ends.get from_).read room = some (.ok data, source)) (who : End) :
    Journal.taken who [.read from_ data] ++ ((ends.set from_ source).get who).unread =
      (ends.get who).unread := by
  by_cases same : from_ = who
  · cases same
    rw [Journal.taken_read, get_set]
    exact Connection.read_unread took
  · rw [get_set_other ends source same]
    simp [Journal.taken, same]

theorem Step.conserves (step : Step room t ends a (t', ends', journal)) (who : End) :
    journal.taken who ++ (ends'.get who).unread = (ends.get who).unread := by
  cases step with
  | readEnds loop fits took => exact read_conserves took who
  | reads loop fits took full => exact read_conserves took who
  | shuts loop shut =>
    rename_i d result closed size
    rw [(Journal.Quiet.ended d.sink _).taken]
    by_cases same : d.sink = who
    · cases same
      rw [get_set]
      exact (Connection.shutdown_ok shut).1
    · rw [get_set_other ends closed same]
      rfl
  | _ => rfl

theorem Step.sent (step : Step room t ends a (t', ends', journal)) (who : End) :
    journal.sent who = [] := by
  cases step with
  | shuts loop shut => exact (Journal.Quiet.ended _ _).sent who
  | _ => rfl

-- A loop at the end of its source leaves nothing unread, and nothing will follow.
def Exhausted (t : Tunnel) (ends : Ends) : Prop :=
  ∀ d, (t.loop d).atEnd = true → (ends.get d.source).Dry

theorem Exhausted.setLoop {l : CopyLoop} (dry : Exhausted t ends)
    (own : l.atEnd = true → (ends'.get d.source).Dry)
    (other : (ends.get d.other.source).Dry → (ends'.get d.other.source).Dry) :
    Exhausted (t.setLoop d l) ends' := by
  intro which finished
  rcases eq_or_other which d with rfl | rfl
  · rw [loop_setLoop] at finished
    exact own finished
  · rw [loop_setLoop_other] at finished
    exact other (dry d.other finished)

theorem Exhausted.onward {l : CopyLoop} (dry : Exhausted t ends) (more : l.atEnd = false)
    (other : (ends.get d.other.source).Dry → (ends'.get d.other.source).Dry) :
    Exhausted (t.setLoop d l) ends' := by
  refine dry.setLoop ?_ other
  intro finished
  rw [more] at finished
  cases finished

theorem source_other (d : Direction) : d.other.source = d.sink := by
  cases d <;> rfl

theorem source_ne_sink (d : Direction) : d.source ≠ d.sink := by
  cases d <;> decide

theorem Step.exhausted (step : Step room t ends a (t', ends', journal)) (space : 0 < room)
    (dry : Exhausted t ends) : Exhausted t' ends' := by
  cases step with
  | unheld => exact dry.onward rfl id
  | readFails => exact dry.onward rfl id
  | readEnds loop fits took =>
    refine dry.setLoop (fun _ => ?_) ?_
    · rw [get_set]
      exact Connection.read_dry took space
    · rw [source_other, get_set_other ends _ (source_ne_sink _)]
      exact id
  | reads loop fits took full =>
    refine dry.onward rfl ?_
    rw [source_other, get_set_other ends _ (source_ne_sink _)]
    exact id
  | counts loop => exact Exhausted.onward (t := { t with counts := _ }) dry rfl id
  | writeFails => exact dry.onward rfl id
  | writes => exact dry.onward rfl id
  | shutFails loop shut =>
    rename_i d result e size
    refine dry.setLoop (fun finished => ?_) id
    have before := dry d
    rw [loop] at before
    cases result with
    | none => exact before rfl
    | some e => cases finished
  | shuts loop shut =>
    rename_i d result closed size
    refine dry.setLoop (fun finished => ?_) ?_
    · have before := dry d
      rw [loop] at before
      rw [get_set_other ends closed (source_ne_sink d).symm]
      cases result with
      | none => exact before rfl
      | some e => cases finished
    · rw [source_other, get_set]
      obtain ⟨unread, finished, _⟩ := Connection.shutdown_ok shut
      simp [Connection.Dry, unread, finished]
  | settles => exact dry
  | abandons => exact dry.onward rfl id

def Noted (t : Tunnel) : Prop :=
  ∀ d result, t.first = some (d, result) → t.loop d = .finished result

theorem Noted.setLoop {l : CopyLoop} (noted : Noted t) (runs : ∀ result, t.loop d ≠ .finished result) :
    Noted (t.setLoop d l) := by
  intro which result first
  have before : t.first = some (which, result) := by cases d <;> exact first
  have finished := noted which result before
  rcases eq_or_other which d with rfl | rfl
  · exact absurd finished (runs result)
  · rw [loop_setLoop_other]
    exact finished

theorem Step.noted (step : Step room t ends a (t', ends', journal)) (noted : Noted t) :
    Noted t' := by
  cases step with
  | unheld loop large => exact noted.setLoop (by simp [loop])
  | readFails loop fits took => exact noted.setLoop (by simp [loop])
  | readEnds loop fits took => exact noted.setLoop (by simp [loop])
  | reads loop fits took full => exact noted.setLoop (by simp [loop])
  | counts loop =>
    rename_i d total size
    have runs : ∀ result, t.loop d ≠ .finished result := by simp [loop]
    exact Noted.setLoop (t := { t with counts := _ }) noted runs
  | writeFails loop more wrote => exact noted.setLoop (by simp [loop])
  | writes loop more wrote => exact noted.setLoop (by simp [loop])
  | shutFails loop shut => exact noted.setLoop (by simp [loop])
  | shuts loop shut => exact noted.setLoop (by simp [loop])
  | settles open_ loop =>
    intro which result first
    cases first
    exact loop
  | abandons first waits =>
    refine noted.setLoop ?_
    intro result finished
    rw [finished] at waits
    cases waits

def Idle (t : Tunnel) : Prop := ∀ d, (t.loop d).isIdle = true

theorem Idle.setLoop {l : CopyLoop} (idle : Idle t) (own : l.isIdle = true) (d : Direction) :
    Idle (t.setLoop d l) := by
  intro which
  rcases eq_or_other which d with rfl | rfl
  · rw [loop_setLoop]
    exact own
  · rw [loop_setLoop_other]
    exact idle d.other

theorem Step.idle (step : Step room t ends a (t', ends', journal)) (large : Limits.largest < room)
    (idle : Idle t) : Idle t' ∧ ∀ who, journal.received who = [] := by
  have busy {d : Direction} {l : CopyLoop} (loop : t.loop d = l) (runs : l.isIdle = false) :
      False := by
    have own := idle d
    rw [loop, runs] at own
    cases own
  cases step with
  | unheld => exact ⟨idle.setLoop rfl _, fun _ => rfl⟩
  | readFails loop fits => exact absurd large fits
  | readEnds loop fits => exact absurd large fits
  | reads loop fits => exact absurd large fits
  | counts loop => exact (busy loop rfl).elim
  | writeFails loop => exact (busy loop rfl).elim
  | writes loop => exact (busy loop rfl).elim
  | shutFails loop => exact (busy loop rfl).elim
  | shuts loop => exact (busy loop rfl).elim
  | settles => exact ⟨idle, fun _ => rfl⟩
  | abandons => exact ⟨idle.setLoop rfl _, fun _ => rfl⟩

theorem first_of_summary? (done : t.summary? = some summary) :
    t.first = some (summary.closedBy, summary.error) := by
  unfold summary? at done
  split at done
  · rename_i first
    split at done
    · cases done
      exact first
    · cases done
  · cases done

end Tunnel

end GatedProxy
