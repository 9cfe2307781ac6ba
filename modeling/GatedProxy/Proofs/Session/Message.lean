import GatedProxy.Proofs.Request.Normal
import GatedProxy.Proofs.Session.Dialed
import GatedProxy.Proofs.Text.Lines

namespace GatedProxy

open Text (oneLine_append)

theorem RequestError.message_oneLine (e : RequestError) : Text.OneLine e.message.toList := by
  cases e with
  | empty => decide +kernel
  | encoding => decide +kernel
  | line text =>
    have lead : Text.OneLine "malformed request line: ".toList := by decide +kernel
    exact oneLine_append lead (Text.quoted_printable text).oneLine.ofList
  | target text =>
    have lead : Text.OneLine "malformed target: ".toList := by decide +kernel
    exact oneLine_append lead (Text.quoted_printable text).oneLine.ofList

namespace SystemError

theorem number_oneLine (n : Nat) : Text.OneLine (toString n).toList :=
  (Text.decimal_solid n).oneLine.ofList

theorem osText_oneLine (code : Nat) : Text.OneLine (osText code).toList := by
  unfold osText
  split
  case h_16 =>
    have lead : Text.OneLine "Unknown error ".toList := by decide +kernel
    exact oneLine_append lead (number_oneLine _)
  all_goals decide +kernel

theorem message_oneLine (e : SystemError) : Text.OneLine e.message.toList := by
  cases e with
  | os code =>
    have middle : Text.OneLine " (os error ".toList := by decide +kernel
    have last : Text.OneLine ")".toList := by decide +kernel
    have start := oneLine_append (osText_oneLine code) middle
    exact oneLine_append (oneLine_append start (number_oneLine code)) last
  | lookupFailed => decide +kernel
  | noAddress => decide +kernel
  | nulInName => decide +kernel

end SystemError

-- The address of a dial is not quoted; only its host is the client's.
theorem SessionError.worded_oneLine {e : SessionError} {say : SystemError → String}
    (hosts : ∀ dest why, e = .dial dest why → Text.Solid dest.host)
    (plain : ∀ why, Text.OneLine (say why).toList) : Text.OneLine (e.worded say).toList := by
  cases e with
  | malformed e =>
    have lead : Text.OneLine "malformed request: ".toList := by decide +kernel
    exact oneLine_append lead e.message_oneLine
  | dial dest why =>
    have lead : Text.OneLine "upstream connection to ".toList := by decide +kernel
    have middle : Text.OneLine " failed: ".toList := by decide +kernel
    have address : Text.Solid dest.toText := Authority.toText_solid (hosts dest why rfl)
    have start := oneLine_append lead address.oneLine.ofList
    exact oneLine_append (oneLine_append start middle) (plain why)
  | io why =>
    have lead : Text.OneLine "socket error: ".toList := by decide +kernel
    exact oneLine_append lead (plain why)

theorem Policy.Admits.solid {p : Policy} (admits : p.Admits raw dest) : Text.Solid dest.host := by
  obtain ⟨r, user, line, _, _, parsed, resolved⟩ := admits
  have found := Target.ofLine_parsed parsed
  rcases resolved with tunnel | http
  · exact (Target.ofLine_host (found.trans tunnel) rfl).2
  · exact (Target.ofLine_host (found.trans http) rfl).2

namespace Session

variable {p : Policy} {s : Session} {j : Journal} {actions : List Action}

theorem Ran.failed (ran : Ran p {} actions s j)
    (returned : s.result? = some (.error (.dial dest e))) :
    ∃ raw, j.firstRead? = some raw ∧ p.Admits raw dest := by
  have reaching := Ran.reaching ran
  unfold result? at returned
  split at returned
  · rename_i phase
    rw [phase, returned] at reaching
    cases reaching with
    | undialed none untold other => exact absurd rfl (other dest e)
    | failed first judged => exact ⟨_, first, Policy.admits_of_judge judged⟩
    | connected first judged reached other => exact absurd rfl (other dest e)
  · cases returned

-- An error is told on one line, whatever the client has sent and wherever it wanted to go, as long
-- as the system's own words are.
theorem error_oneLine (ran : Session.run p {} actions = some (s, j))
    (returned : s.result? = some (.error e)) :
    Text.OneLine e.message.toList ∧
      ∀ say : SystemError → String, (∀ why, Text.OneLine (say why).toList) →
        Text.OneLine (e.worded say).toList := by
  have hosts : ∀ dest why, e = .dial dest why → Text.Solid dest.host := by
    rintro dest why rfl
    obtain ⟨raw, _, admits⟩ := Ran.failed (run_exact.1 ran) returned
    exact admits.solid
  have worded {say : SystemError → String} (plain : ∀ why, Text.OneLine (say why).toList) :
      Text.OneLine (e.worded say).toList := SessionError.worded_oneLine hosts plain
  exact ⟨worded SystemError.message_oneLine, fun say plain => worded plain⟩

theorem error_oneLine_forged :
    let p : Policy := { credentials := .ofList [⟨"u".toList, "a".toList⟩] }
    let basic : Text := "\r\nProxy-Authorization: Basic dTph\r\n\r\n".toList
    let line : Text := "\x0bGET\n\r\u0085\u2028".toList
    let malformed : List Action := [.far .client (.send (Text.utf8 (line ++ basic))), .read]
    let host : Text := "\x1b[2Jé\x00".toList
    let unnamed : List Action :=
      [.far .client (.send (Text.utf8 ("CONNECT ".toList ++ host ++ ":80".toList ++ basic))), .read]
    let one : SessionError := .malformed (.line line)
    let two : SessionError := .dial ⟨host, 80⟩ .nulInName
    (∃ s j, Session.run p {} malformed = some (s, j) ∧ s.result? = some (.error one) ∧
      Text.OneLine one.message.toList) ∧
    ∃ s j, Session.run p {} unnamed = some (s, j) ∧ s.result? = some (.error two) ∧
      Text.OneLine two.message.toList := by
  intro p basic line malformed host unnamed one two
  have first : (Session.run p {} malformed).any (fun done => done.1.result? = some (.error one)) =
    true := by decide +kernel
  have second : (Session.run p {} unnamed).any (fun done => done.1.result? = some (.error two)) =
    true := by decide +kernel
  obtain ⟨⟨s, j⟩, ran, returned⟩ := (Option.any_eq_true _ _).1 first
  obtain ⟨⟨t, k⟩, again, failed⟩ := (Option.any_eq_true _ _).1 second
  have left := error_oneLine ran (of_decide_eq_true returned)
  have right := error_oneLine again (of_decide_eq_true failed)
  exact ⟨⟨s, j, ran, of_decide_eq_true returned, left.1⟩,
    ⟨t, k, again, of_decide_eq_true failed, right.1⟩⟩

end Session

end GatedProxy
