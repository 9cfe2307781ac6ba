import GatedProxy.Proofs.Request.Basic
import GatedProxy.Proofs.Session.Gate

namespace GatedProxy

theorem CredentialTable.judge_missing {table : CredentialTable} :
    table.judge value = .missing ↔ value = none := by
  cases value with
  | none => exact iff_of_true rfl rfl
  | some value =>
    refine iff_of_false ?_ nofun
    simp only [judge]
    split
    · split <;> nofun
    · nofun

theorem RequestLine.parse_error (failed : RequestLine.parse line = .error e) : e = .line line := by
  unfold parse at failed
  split at failed
  · cases failed
  · cases failed
    rfl

theorem Target.resolve_error (failed : Target.resolve line = .error e) :
    e = .target line.target := by
  unfold resolve at failed
  split at failed
  · split at failed
    · cases failed
    · cases failed
      rfl
  · split at failed
    · cases failed
    · dsimp only at failed
      split at failed
      · cases failed
        rfl
      · cases failed

namespace Policy

structure Passes (p : Policy) (raw : Bytes) (r : Request) : Prop where
  parsed : Request.parse raw = .ok r
  accepted : ∃ user, p.credentials.judge r.authorization? = .accepted user

-- What the bytes of a first read call for, one case for each.
inductive Calls (p : Policy) (raw : Bytes) : Judgement → Prop where
  | encoding (garbled : ∀ text, raw ≠ Text.utf8 text) : Calls p raw (.fail .encoding)
  | required (parsed : Request.parse raw = .ok r) (absent : r.authorization? = none) :
      Calls p raw (.answer (Response.challenge .required) (.rejected .required))
  | invalid (parsed : Request.parse raw = .ok r) (given : r.authorization? = some value)
      (refused : ∀ user, p.credentials.judge (some value) ≠ .accepted user) :
      Calls p raw
        (.answer (Response.challenge .invalidCredentials) (.rejected .invalidCredentials))
  | line (passes : p.Passes raw r) (wrong : RequestLine.parse r.line = .error (.line r.line)) :
      Calls p raw (.fail (.line r.line))
  | target (passes : p.Passes raw r) (words : RequestLine.parse r.line = .ok line)
      (wrong : Target.resolve line = .error (.target line.target)) :
      Calls p raw (.fail (.target line.target))
  | unsupported (passes : p.Passes raw r) (words : RequestLine.parse r.line = .ok line)
      (resolved : Target.resolve line = .ok .unsupported) :
      Calls p raw (.answer Response.badRequest .badRequest)
  | tunnel (passes : p.Passes raw r) (words : RequestLine.parse r.line = .ok line)
      (resolved : Target.resolve line = .ok (.tunnel dest)) : Calls p raw (.dial dest .tunnel)
  | relay (passes : p.Passes raw r) (words : RequestLine.parse r.line = .ok line)
      (resolved : Target.resolve line = .ok (.http dest)) : Calls p raw (.dial dest (.relay raw))

variable {p : Policy} {raw : Bytes}

theorem judge_of_parsed (parsed : Request.parse raw = .ok r) :
    p.judge raw = p.judgeRequest r := by
  simp [judge, parsed]

theorem judge_of_calls (full : raw ≠ []) (calls : p.Calls raw judgement) :
    (p.judge raw).1 = judgement := by
  cases calls with
  | encoding garbled =>
    have none := Text.ofUtf8?_eq_none.2 garbled
    simp [judge, Request.parse, full, none]
  | required parsed absent =>
    have missing : p.credentials.judge _ = .missing := CredentialTable.judge_missing.2 absent
    simp [judge_of_parsed parsed, judgeRequest, missing]
  | invalid parsed given refused =>
    rename_i r value
    rw [judge_of_parsed parsed, judgeRequest, given]
    cases access : p.credentials.judge (some value) with
    | missing => cases CredentialTable.judge_missing.1 access
    | invalid => rfl
    | accepted user => exact absurd access (refused user)
  | line passes wrong =>
    obtain ⟨user, accepted⟩ := passes.accepted
    simp [judge_of_parsed passes.parsed, judgeRequest, accepted, wrong]
  | target passes words wrong =>
    obtain ⟨user, accepted⟩ := passes.accepted
    simp [judge_of_parsed passes.parsed, judgeRequest, accepted, words, wrong]
  | unsupported passes words resolved =>
    obtain ⟨user, accepted⟩ := passes.accepted
    simp [judge_of_parsed passes.parsed, judgeRequest, accepted, words, resolved, judgeTarget]
  | tunnel passes words resolved =>
    obtain ⟨user, accepted⟩ := passes.accepted
    simp [judge_of_parsed passes.parsed, judgeRequest, accepted, words, resolved, judgeTarget]
  | relay passes words resolved =>
    obtain ⟨user, accepted⟩ := passes.accepted
    have same := Request.parse_ok passes.parsed
    simp [judge_of_parsed passes.parsed, judgeRequest, accepted, words, resolved, judgeTarget, same]

theorem calls_judge (full : raw ≠ []) : p.Calls raw (p.judge raw).1 := by
  cases parsed : Request.parse raw with
  | error e =>
    obtain ⟨rfl, none⟩ := Request.parse_error full parsed
    have failed : (p.judge raw).1 = .fail .encoding := by simp [judge, parsed]
    rw [failed]
    exact .encoding (Text.ofUtf8?_eq_none.1 none)
  | ok r =>
    rw [judge_of_parsed parsed, judgeRequest]
    cases access : p.credentials.judge r.authorization? with
    | missing => exact .required parsed (CredentialTable.judge_missing.1 access)
    | invalid =>
      cases given : r.authorization? with
      | none =>
        rw [CredentialTable.judge_missing.2 given] at access
        cases access
      | some value =>
        refine .invalid parsed given ?_
        intro user accepted
        rw [given, accepted] at access
        cases access
    | accepted user =>
      have passes : p.Passes raw r := ⟨parsed, user, access⟩
      dsimp only
      cases words : RequestLine.parse r.line with
      | error e =>
        cases RequestLine.parse_error words
        exact .line passes words
      | ok line =>
        dsimp only
        cases resolved : Target.resolve line with
        | error e =>
          cases Target.resolve_error resolved
          exact .target passes words resolved
        | ok target =>
          cases target with
          | tunnel dest => exact .tunnel passes words resolved
          | http dest =>
            have same := Request.parse_ok parsed
            simp only [judgeTarget, same]
            exact .relay passes words resolved
          | unsupported => exact .unsupported passes words resolved

theorem calls_exact (full : raw ≠ []) : p.Calls raw judgement ↔ (p.judge raw).1 = judgement :=
  ⟨judge_of_calls full, fun judged => judged ▸ calls_judge full⟩

end Policy

end GatedProxy
