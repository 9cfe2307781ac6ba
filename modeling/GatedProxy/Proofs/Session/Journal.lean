import GatedProxy.Session.Basic

namespace GatedProxy

namespace Occurrence

def isDialing : Occurrence → Bool
  | .lookup _ | .attempt _ | .opened => true
  | _ => false

-- What only somebody who may pass can bring about.
def isOutward : Occurrence → Bool
  | .lookup _ | .attempt _ | .opened | .wrote .upstream _ => true
  | _ => false

def isQuiet : Occurrence → Bool
  | .ended _ | .dropped _ | .counted _ _ | .log _ | .returned _ => true
  | _ => false

def isParting : Occurrence → Bool
  | .ended _ | .dropped _ | .returned _ => true
  | _ => false

theorem quiet_of_parting {o : Occurrence} (parting : o.isParting = true) : o.isQuiet = true := by
  cases o with
  | ended | dropped | returned => rfl
  | _ => cases parting

end Occurrence

namespace Journal

-- What the first read of the client gave, once it has been made.
def firstRead? (j : Journal) : Option Bytes :=
  j.findSome? fun
    | .read .client data => some data
    | _ => none

def dialings (j : Journal) : Journal := j.filter Occurrence.isDialing

def taken (who : End) (j : Journal) : Bytes :=
  j.flatMap fun
    | .read from_ data => if from_ = who then data else []
    | _ => []

@[simp] theorem firstRead?_append (j k : Journal) :
    (j ++ k).firstRead? = j.firstRead?.or k.firstRead? := List.findSome?_append

theorem firstRead?_read {j : Journal} (unread : j.firstRead? = none) (raw : Bytes) (more : Journal) :
    (j ++ .read .client raw :: more).firstRead? = some raw := by
  rw [firstRead?_append, unread]
  rfl

@[simp] theorem dialings_append (j k : Journal) :
    (j ++ k).dialings = j.dialings ++ k.dialings := List.filter_append j k

@[simp] theorem taken_append (who : End) (j k : Journal) :
    (j ++ k).taken who = j.taken who ++ k.taken who := List.flatMap_append

@[simp] theorem received_append (who : End) (j k : Journal) :
    (j ++ k).received who = j.received who ++ k.received who := List.flatMap_append

@[simp] theorem sent_append (who : End) (j k : Journal) :
    (j ++ k).sent who = j.sent who ++ k.sent who := List.flatMap_append

@[simp] theorem taken_read (who : End) (data : Bytes) : taken who [.read who data] = data := by
  simp [taken]

@[simp] theorem received_wrote (who : End) (data : Bytes) :
    received who [.wrote who data] = data := by
  simp [received]

@[simp] theorem events_append (j k : Journal) : (j ++ k).events = j.events ++ k.events :=
  List.filterMap_append

@[simp] theorem events_log (event : LogEvent) (j : Journal) :
    Journal.events (.log event :: j) = event :: j.events := rfl

@[simp] theorem events_read (who : End) (data : Bytes) (j : Journal) :
    Journal.events (.read who data :: j) = j.events := rfl

@[simp] theorem events_logs (events : List LogEvent) :
    Journal.events (events.map .log) = events := by
  rw [Journal.events, List.filterMap_map]
  exact List.filterMap_some

theorem unopened {j : Journal} (none : .opened ∉ j.dialings) : .opened ∉ j :=
  fun member => none (List.mem_filter.2 ⟨member, rfl⟩)

def Only (kind : Occurrence → Bool) (j : Journal) : Prop := ∀ o ∈ j, kind o = true

namespace Only

variable {kind other : Occurrence → Bool} {j k : Journal}

theorem nil : Only kind [] := by
  intro o member
  cases member

theorem cons (first : kind o = true) (later : Only kind j) : Only kind (o :: j) := by
  intro x member
  rcases List.mem_cons.1 member with rfl | member
  · exact first
  · exact later x member

theorem append (one : Only kind j) (two : Only kind k) : Only kind (j ++ k) := by
  intro o member
  rcases List.mem_append.1 member with member | member
  · exact one o member
  · exact two o member

theorem weaken (only : Only kind j) (weaker : ∀ {o}, kind o = true → other o = true) :
    Only other j := by
  intro o member
  exact weaker (only o member)

end Only

abbrev Quiet : Journal → Prop := Only Occurrence.isQuiet

abbrev Parting : Journal → Prop := Only Occurrence.isParting

theorem Parting.ended (who : End) (tells : Prop) [Decidable tells] :
    Parting (if tells then [.ended who] else []) := by
  split
  · exact .cons rfl .nil
  · exact .nil

theorem Parting.quiet {j : Journal} (parting : j.Parting) : j.Quiet :=
  parting.weaken Occurrence.quiet_of_parting

theorem Parting.events {j : Journal} (parting : j.Parting) : j.events = [] := by
  apply List.filterMap_eq_nil_iff.2
  intro o member
  have leaves := parting o member
  cases o with
  | log => cases leaves
  | _ => rfl

theorem Quiet.ended (who : End) (tells : Prop) [Decidable tells] :
    Quiet (if tells then [.ended who] else []) := (Parting.ended who tells).quiet

theorem Quiet.logs (events : List LogEvent) : Quiet (events.map .log) := by
  intro o member
  obtain ⟨event, _, rfl⟩ := List.mem_map.1 member
  rfl

theorem Quiet.firstRead? {j : Journal} (quiet : j.Quiet) : j.firstRead? = none := by
  apply List.findSome?_eq_none_iff.2
  intro o member
  have still := quiet o member
  cases o <;> simp_all [Occurrence.isQuiet]

theorem Quiet.dialings {j : Journal} (quiet : j.Quiet) : j.dialings = [] := by
  apply List.filter_eq_nil_iff.2
  intro o member
  have still := quiet o member
  cases o <;> simp_all [Occurrence.isQuiet, Occurrence.isDialing]

theorem Quiet.outward {j : Journal} (quiet : j.Quiet) (member : o ∈ j) :
    o.isOutward = false := by
  have still := quiet o member
  cases o <;> simp_all [Occurrence.isQuiet, Occurrence.isOutward]

theorem Quiet.bytes {j : Journal} (quiet : j.Quiet) {view : Occurrence → Bytes}
    (none : ∀ o, o.isQuiet = true → view o = []) : j.flatMap view = [] := by
  apply List.flatMap_eq_nil_iff.2
  intro o member
  exact none o (quiet o member)

theorem Quiet.taken {j : Journal} (quiet : j.Quiet) (who : End) : j.taken who = [] := by
  apply quiet.bytes
  intro o still
  cases o with
  | arrived | read | wrote | lookup | attempt | opened => cases still
  | _ => rfl

theorem Quiet.received {j : Journal} (quiet : j.Quiet) (who : End) : j.received who = [] := by
  apply quiet.bytes
  intro o still
  cases o with
  | arrived | read | wrote | lookup | attempt | opened => cases still
  | _ => rfl

theorem received_first (who : End) (raw : Bytes) (events : List LogEvent) :
    received who (.read .client raw :: events.map .log) = [] := (Quiet.logs events).received who

theorem taken_first (raw : Bytes) (events : List LogEvent) :
    taken .client (.read .client raw :: events.map .log) = raw := by
  have split : taken .client ([.read .client raw] ++ events.map .log) = raw ++ [] := by
    rw [taken_append, taken_read, (Quiet.logs events).taken]
  exact split.trans (List.append_nil raw)

theorem Quiet.sent {j : Journal} (quiet : j.Quiet) (who : End) : j.sent who = [] := by
  apply quiet.bytes
  intro o still
  cases o with
  | arrived | read | wrote | lookup | attempt | opened => cases still
  | _ => rfl

end Journal

namespace Session

open Journal

theorem letGo_parting (who : End) (c : Connection) : (letGo who c).2.Parting :=
  (Parting.ended who _).append (.cons rfl .nil)

theorem shutQuietly_parting (who : End) (c : Connection) : (shutQuietly who c).2.Parting := by
  unfold shutQuietly
  split
  · exact .ended who _
  · exact .nil

theorem returned_parting (result : Option SessionResult) :
    Parting (result.toList.map Occurrence.returned) := by
  intro o member
  obtain ⟨r, _, rfl⟩ := List.mem_map.1 member
  rfl

theorem endWith_parting (client : Connection) (upstream : Option Connection)
    (result : Option SessionResult) : (endWith client upstream result).2.Parting := by
  cases upstream with
  | none => exact (letGo_parting .client client).append (returned_parting result)
  | some upstream =>
    exact ((letGo_parting .upstream upstream).append (letGo_parting .client client)).append
      (returned_parting result)

theorem finish_parting (client : Connection) (upstream : Option Connection)
    (result : SessionResult) : (finish client upstream result).2.Parting :=
  endWith_parting client upstream (some result)

theorem breakDown_parting (client : Connection) (upstream : Option Connection) :
    (breakDown client upstream).2.Parting := endWith_parting client upstream none

theorem shutQuietly_quiet (who : End) (c : Connection) : (shutQuietly who c).2.Quiet :=
  (shutQuietly_parting who c).quiet

theorem finish_quiet (client : Connection) (upstream : Option Connection)
    (result : SessionResult) : (finish client upstream result).2.Quiet :=
  (finish_parting client upstream result).quiet

theorem relayed_quiet (client upstream : Connection) (dest : Authority) (size : Nat) :
    (relayed client upstream dest size).2.Quiet := by
  have shut := (shutQuietly_quiet .upstream upstream).append (shutQuietly_quiet .client client)
  exact .cons rfl (shut.append (finish_quiet _ _ _))

end Session

end GatedProxy
