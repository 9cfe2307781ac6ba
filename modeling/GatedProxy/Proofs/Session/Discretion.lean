import GatedProxy.Proofs.Connection
import GatedProxy.Proofs.Session.Verdict

namespace GatedProxy

namespace CredentialTable

theorem judge_congr {one two : CredentialTable} {header : Option Text}
    (same : ∀ value c, header = some value → Credential.ofBasic? value = some c →
      one.accepts c = two.accepts c) : one.judge header = two.judge header := by
  cases header with
  | none => rfl
  | some value =>
    simp only [judge]
    cases read : Credential.ofBasic? value with
    | none => rfl
    | some c =>
      have accepts := same value c rfl read
      simp only [accepts]

inductive Refuses (table : CredentialTable) (value : Text) : Prop where
  | undecodable (garbled : Credential.ofBasic? value = none)
  | unknownUser (decoded : Credential.ofBasic? value = some c)
      (unknown : table.password? c.user = none)
  | wrongPassword (decoded : Credential.ofBasic? value = some c)
      (known : table.password? c.user = some password) (differs : password ≠ c.password)

theorem refuses_exact {table : CredentialTable} {value : Text} :
    table.Refuses value ↔ table.judge (some value) = .invalid := by
  constructor
  · intro refuses
    cases refuses with
    | undecodable garbled => simp [judge, garbled]
    | unknownUser decoded unknown => simp [judge, decoded, accepts, unknown]
    | wrongPassword decoded known differs => simp [judge, decoded, accepts, known, differs]
  · intro invalid
    cases read : Credential.ofBasic? value with
    | none => exact .undecodable read
    | some c =>
      cases held : table.password? c.user with
      | none => exact .unknownUser read held
      | some password =>
        refine .wrongPassword read held ?_
        rintro rfl
        simp [judge, read, accepts, held] at invalid

end CredentialTable

namespace Policy

variable {p q : Policy} {raw : Bytes}

-- The pair in a request, if there is one, is good for both policies or for neither.
def Agrees (p q : Policy) (raw : Bytes) : Prop :=
  ∀ r value c, Request.parse raw = .ok r → r.authorization? = some value →
    Credential.ofBasic? value = some c → p.credentials.accepts c = q.credentials.accepts c

theorem Agrees.judge (agrees : p.Agrees q raw) : p.judge raw = q.judge raw := by
  unfold Policy.judge
  cases parsed : Request.parse raw with
  | error e => rfl
  | ok r =>
    have access : p.credentials.judge r.authorization? = q.credentials.judge r.authorization? :=
      CredentialTable.judge_congr fun value c => agrees r value c parsed
    simp only [judgeRequest, access]

theorem Agrees.symm (agrees : p.Agrees q raw) : q.Agrees p raw :=
  fun r value c parsed given decoded => (agrees r value c parsed given decoded).symm

def Refuses (p : Policy) (raw : Bytes) : Prop :=
  ∃ r value, Request.parse raw = .ok r ∧ r.authorization? = some value ∧ p.credentials.Refuses value

def refusal : Judgement :=
  .answer (Response.challenge .invalidCredentials) (.rejected .invalidCredentials)

theorem judge_of_refuses (refuses : p.Refuses raw) : p.judge raw = (refusal, []) := by
  obtain ⟨r, value, parsed, given, refuses⟩ := refuses
  have invalid := CredentialTable.refuses_exact.1 refuses
  simp [judge_of_parsed parsed, judgeRequest, given, invalid, refusal]

theorem refuses_of_judge (judged : p.judge raw = (refusal, [])) : p.Refuses raw := by
  cases parsed : Request.parse raw with
  | error e =>
    simp only [judge, parsed] at judged
    cases judged
  | ok r =>
    rw [judge_of_parsed parsed, judgeRequest] at judged
    cases access : p.credentials.judge r.authorization? with
    | missing =>
      rw [access] at judged
      cases (Judgement.answer.inj (congrArg Prod.fst judged)).2
    | invalid =>
      cases given : r.authorization? with
      | none =>
        rw [CredentialTable.judge_missing.2 given] at access
        cases access
      | some value =>
        refine ⟨r, value, parsed, given, CredentialTable.refuses_exact.2 ?_⟩
        rw [← given, access]
    | accepted user =>
      rw [access] at judged
      -- somebody who may pass is logged
      have logged := congrArg (fun judged => judged.2.length) judged
      dsimp only at logged
      split at logged
      · cases logged
      · split at logged <;> cases logged

theorem refuses_exact : p.Refuses raw ↔ p.judge raw = (refusal, []) :=
  ⟨judge_of_refuses, refuses_of_judge⟩

theorem not_refuses_nil : ¬ p.Refuses [] := by
  rintro ⟨r, value, parsed, _⟩
  cases parsed

end Policy

namespace Session

variable {p q : Policy} {s t : Session} {j k : Journal} {a : Action}

theorem act_congr (limits : p.limits = q.limits)
    (judged : a = .read → s.phase = .awaitingRequest → ¬ Limits.largest < p.limits.request →
      ∀ raw c, s.client.read p.limits.request = some (.ok raw, c) → p.judge raw = q.judge raw) :
    s.act p a = s.act q a := by
  cases a with
  | read =>
    simp only [act, read]
    rw [← limits]
    split
    · rename_i phase
      split
      · rfl
      · rename_i fits
        cases took : s.client.read p.limits.request with
        | none => rfl
        | some result =>
          obtain ⟨result, c⟩ := result
          cases result with
          | error e => rfl
          | ok raw =>
            have same := judged rfl phase fits raw c took
            simp only [Option.map_some, receive, same]
    · rfl
    · rfl
  | tunnel a => simp only [act, tunnel, limits]
  | _ => rfl

theorem act_read {c : Connection} (phase : s.phase = .awaitingRequest)
    (fits : ¬ Limits.largest < p.limits.request)
    (took : s.client.read p.limits.request = some (.ok raw, c)) :
    s.act p .read = some (after [.read .client raw] (receive p c raw)) := by
  simp [act, read, phase, fits, took]

theorem Ran.congr {actions : List Action} (limits : p.limits = q.limits)
    (ran : Ran p {} actions s j) (agrees : ∀ raw, j.firstRead? = some raw → p.Agrees q raw) : Ran q {} actions s j := by
  induction ran with
  | start => exact .start
  | step path step ih =>
    rename_i actions s j a moved
    have before (raw : Bytes) (first : Journal.firstRead? j = some raw) : p.Agrees q raw :=
      agrees raw (by simp [first])
    have acted := act_complete step
    have same : s.act p a = s.act q a := by
      apply act_congr limits
      rintro rfl phase fits raw c took
      rw [act_read phase fits took] at acted
      cases acted
      apply Policy.Agrees.judge
      apply agrees
      have unread := ((Course.of_ran path).standing.awaiting phase).1
      exact Journal.firstRead?_read unread _ _
    exact .step (ih before) (act_sound (same ▸ acted))

end Session

-- What the proxy does, apart from hearing what its far ends send.
def Occurrence.isDeed : Occurrence → Bool
  | .arrived _ _ | .read _ _ => false
  | _ => true

namespace Journal

def deeds (j : Journal) : Journal := j.filter Occurrence.isDeed

@[simp] theorem deeds_append (j k : Journal) : (j ++ k).deeds = j.deeds ++ k.deeds :=
  List.filter_append j k

theorem Quiet.deeds {j : Journal} (quiet : j.Quiet) : j.deeds = j := by
  apply List.filter_eq_self.2
  intro o member
  have still := quiet o member
  cases o with
  | arrived | read => cases still
  | _ => rfl

theorem heard_deeds (who : End) (c : Connection) (event : FarEvent) :
    (Session.heard who c event).deeds = [] := by
  rcases Session.heard_cases who c event with none | ⟨data, one⟩
  · rw [none]
    rfl
  · rw [one]
    rfl

end Journal

def Connection.emptied (c : Connection) : Connection := { c with unread := [] }

def FarEvent.emptied : FarEvent → FarEvent
  | .send _ => .send []
  | event => event

theorem Connection.far_emptied (c : Connection) (event : FarEvent) :
    (c.emptied.far event.emptied).emptied = (c.far event).emptied := by
  cases event with
  | send data =>
    have same : c.emptied.listens = c.listens := rfl
    simp only [FarEvent.emptied, far, same]
    split <;> rfl
  | fault call e => cases call <;> rfl
  | _ => rfl

namespace Session

-- A session without what its client has sent.
def hushed (s : Session) : Session := { s with client := s.client.emptied }

def Action.hushed : Action → Action
  | .far .client event => .far .client event.emptied
  | a => a

def seen (moved : Session × Journal) : Session × Journal := (moved.1.hushed, moved.2.deeds)

-- What a session does that will refuse its client. The limits decide it, and nothing in the
-- request.
def refusing (limits : Limits) (s : Session) : Action → Option (Session × Journal)
  | .far .client event => some ({ s with client := s.client.far event }, [])
  | .read =>
    match s.phase with
    | .awaitingRequest =>
      if Limits.largest < limits.request then some (breakDown s.client none)
      else
        match s.client.recvFault with
        | some e => some (finish s.client none (.error (.io e)))
        | none =>
          let challenge := Response.bytes (Response.challenge .invalidCredentials)
          some ({ s with phase := .answering challenge (.rejected .invalidCredentials) }, [])
    | _ => none
  | .write size => s.write size
  | _ => none

inductive Alone : Phase → Prop where
  | waits : Alone .awaitingRequest
  | answers : Alone (.answering left outcome)
  | ends : Alone (.over none result)

theorem shutQuietly_emptied (who : End) (c : Connection) :
    shutQuietly who c.emptied = ((shutQuietly who c).1.emptied, (shutQuietly who c).2) := by
  have fault : c.emptied.shutdownFault = c.shutdownFault := rfl
  unfold shutQuietly Connection.shutdown
  rw [fault]
  cases c.shutdownFault with
  | none => rfl
  | some e =>
    by_cases gone : e = .notConnected
    · simp [gone]
      rfl
    · simp [gone]

theorem write_hushed (s : Session) (size : Nat) (alone : Alone s.phase) :
    (s.hushed.write size).map seen = (s.write size).map seen := by
  obtain ⟨client, phase⟩ := s
  cases alone with
  | waits => rfl
  | ends => rfl
  | answers =>
    rename_i left outcome
    cases left with
    | nil =>
      simp only [hushed, write, pending?, written, shutQuietly_emptied, Option.map_some]
      rfl
    | cons b left =>
      have same : client.emptied.write (b :: left) size = client.write (b :: left) size := rfl
      simp only [hushed, write, pending?, same, Option.map_map]
      congr 1
      funext result
      cases result <;> rfl

theorem Alone.upstream? {s : Session} (alone : Alone s.phase) : s.upstream? = none := by
  unfold Session.upstream?
  generalize s.phase = phase at alone
  cases alone <;> rfl

theorem Alone.setPending {s : Session} (alone : Alone s.phase) (left : Bytes) :
    Alone (s.setPending left).phase := by
  obtain ⟨client, phase⟩ := s
  cases alone with
  | waits => exact .waits
  | answers => exact .answers
  | ends => exact .ends

-- Who will be refused stays alone, and a move shows nothing that it would not show of a client who
-- sends nothing.
theorem Step.refusing (step : Step p s a moved) (alone : Alone s.phase)
    (refuses : ∀ raw, s.phase = .awaitingRequest → moved.2.firstRead? = some raw → p.Refuses raw) :
    (s.hushed.refusing p.limits a.hushed).map seen = some (seen moved) ∧ Alone moved.1.phase := by
  have acted := act_complete step
  have written (size : Nat) (same : a = .write size) :
      (s.hushed.refusing p.limits a.hushed).map seen = some (seen moved) := by
    subst same
    exact (write_hushed s size alone).trans (congrArg (Option.map seen) acted)
  cases step with
  | farClient =>
    rename_i event
    refine ⟨?_, alone⟩
    have here := s.client.far_emptied event
    simp only [Action.hushed, Session.refusing, seen, hushed, Option.map_some, here,
      Journal.heard_deeds]
    rfl
  | farUpstream held =>
    rw [alone.upstream?] at held
    cases held
  | requestUnheld phase large =>
    refine ⟨?_, .ends⟩
    simp only [Action.hushed, Session.refusing, hushed, phase, if_pos large]
    rfl
  | requestFails phase fits took =>
    refine ⟨?_, .ends⟩
    have fault : s.client.emptied.recvFault = some _ := Connection.read_fault took
    simp only [Action.hushed, Session.refusing, hushed, phase, if_neg fits, fault,
      Connection.read_error took]
    rfl
  | requestEnds phase fits took =>
    exact absurd (refuses [] phase rfl) Policy.not_refuses_nil
  | requestAnswered phase fits took full judged =>
    rw [Policy.judge_of_refuses (refuses _ phase rfl)] at judged
    cases judged
    refine ⟨?_, .answers⟩
    have sound : s.client.emptied.recvFault = none := Connection.read_fault took
    obtain ⟨_, rfl, _⟩ := Connection.read_ok took
    simp only [Action.hushed, Session.refusing, hushed, phase, if_neg fits, sound]
    rfl
  | requestMalformed phase fits took full judged | requestDials phase fits took full judged =>
    rw [Policy.judge_of_refuses (refuses _ phase rfl)] at judged
    cases judged
  | writeFails pending more wrote =>
    rw [alone.upstream?] at written ⊢
    exact ⟨written _ rfl, .ends⟩
  | writes pending more wrote => exact ⟨written _ rfl, alone.setPending _⟩
  | answered phase => exact ⟨written _ rfl, .ends⟩
  | resolved phase | dialed phase | replyUnheld phase | replyFails phase | replyTaken phase
  | established phase | requestSent phase | replySent phase | tunnel phase | conclude phase =>
    rw [phase] at alone
    cases alone

theorem Alone.act_isSome {s : Session} (alone : Alone s.phase) (past : s.phase ≠ .awaitingRequest)
    (a : Action) : (s.act p a).isSome = (s.hushed.act q a.hushed).isSome := by
  have written (size : Nat) : (s.hushed.write size).isSome = (s.write size).isSome := by
    have same := congrArg Option.isSome (write_hushed s size alone)
    simpa only [Option.isSome_map] using same
  obtain ⟨client, phase⟩ := s
  cases a with
  | far who event => cases who <;> cases alone <;> rfl
  | write size => exact (written size).symm
  | read =>
    cases alone with
    | waits => exact absurd rfl past
    | answers | ends => rfl
  | resolved | dialed | tunnel | conclude => cases alone <;> rfl

theorem Ran.refusing (ran : Ran p {} actions s j)
    (refuses : ∀ raw, j.firstRead? = some raw → p.Refuses raw) :
    GatedProxy.Ran (fun s a moved => (refusing p.limits s a).map seen = some moved) {}
      (actions.map Action.hushed) s.hushed j.deeds ∧ Alone s.phase := by
  induction ran with
  | start => exact ⟨.start, .waits⟩
  | step path step ih =>
    rename_i actions s j a moved
    have before (raw : Bytes) (first : Journal.firstRead? j = some raw) : p.Refuses raw :=
      refuses raw (by simp [first])
    obtain ⟨hushed, alone⟩ := ih before
    obtain ⟨moves, still⟩ := Step.refusing step alone fun raw phase first => by
      apply refuses
      have unread := ((Course.of_ran path).standing.awaiting phase).1
      rw [Journal.firstRead?_append, unread, first]
      rfl
    rw [List.map_append, Journal.deeds_append]
    exact ⟨.step hushed moves, still⟩

-- The table is seen through one bit only: whether it takes the pair in the one read of the request.
-- And who is refused cannot see why.
theorem table_unseen (limits : p.limits = q.limits) :
    (∀ actions s j, (∀ raw, j.firstRead? = some raw → p.Agrees q raw) →
      (run p {} actions = some (s, j) ↔ run q {} actions = some (s, j))) ∧
    (∀ actions others s t j k, actions.map Action.hushed = others.map Action.hushed →
      run p {} actions = some (s, j) → run q {} others = some (t, k) →
      (∀ raw, j.firstRead? = some raw → p.Refuses raw) →
      (∀ raw, k.firstRead? = some raw → q.Refuses raw) →
      j.deeds = k.deeds ∧ s.result? = t.result? ∧
      (j.firstRead? ≠ none → ∀ a b, a.hushed = b.hushed →
        (s.act p a).isSome = (t.act q b).isSome)) := by
  constructor
  · intro actions s j agrees
    rw [run_exact, run_exact]
    constructor
    · intro ran
      exact ran.congr limits agrees
    · intro ran
      exact ran.congr limits.symm fun raw first => (agrees raw first).symm
  · intro actions others s t j k alike one two refused refused'
    have ran := run_exact.1 one
    obtain ⟨here, alone⟩ := Ran.refusing ran refused
    obtain ⟨there, alone'⟩ := Ran.refusing (run_exact.1 two) refused'
    rw [← limits, ← alike] at there
    obtain ⟨same, deeds⟩ :=
      here.unique (fun one two => Option.some.inj (one.symm.trans two)) there
    have phases : s.hushed.phase = t.hushed.phase := congrArg Session.phase same
    change s.phase = t.phase at phases
    refine ⟨deeds, ?_, ?_⟩
    · simp only [result?, phases]
    · intro first a b actions
      have past : s.phase ≠ .awaitingRequest := fun phase =>
        first ((Course.of_ran ran).standing.awaiting phase).1
      rw [alone.act_isSome (q := p) past, alone'.act_isSome (q := p) (phases ▸ past), same, actions]

theorem table_unseen_guesses :
    let p : Policy := {
      credentials := .ofList [⟨"u".toList, "a".toList⟩, ⟨"v".toList, "c".toList⟩] }
    let q : Policy := { credentials := .ofList [⟨"v".toList, "c".toList⟩] }
    let request (token : String) := Text.utf8
      ("GET http://1.2.3.4/ HTTP/1.1\r\nProxy-Authorization: Basic " ++ token ++ "\r\n\r\n").toList
    let guess (token : String) : List Action :=
      [.far .client (.send (request token)), .read, .write 100, .far .client .close, .write 1]
    let passing : List Action := [.far .client (.send (request "djpj")), .read, .dialed (.ok [])]
    (∃ s j, run p {} passing = some (s, j) ∧ run q {} passing = some (s, j) ∧
      j.attempts = [⟨.v4 ⟨1, 2, 3, 4⟩, 80⟩]) ∧
    ∃ s t j k, run p {} (guess "dTp4") = some (s, j) ∧ run q {} (guess "dTp4") = some (t, k) ∧
      j.deeds = k.deeds ∧ (j.received .client).length = 100 ∧
      ∃ u l, run q {} (guess "%%%%") = some (u, l) ∧ k.deeds = l.deeds := by
  intro p q request guess passing
  have limits : p.limits = q.limits := rfl
  obtain ⟨alike, blind⟩ := table_unseen limits
  constructor
  · have last : (run p {} passing).any (fun done =>
        done.2.firstRead? = some (request "djpj") ∧
        done.2.attempts = [⟨.v4 ⟨1, 2, 3, 4⟩, 80⟩]) = true := by decide +kernel
    obtain ⟨⟨s, j⟩, ran, seen⟩ := (Option.any_eq_true _ _).1 last
    obtain ⟨read, attempts⟩ := of_decide_eq_true seen
    refine ⟨s, j, ran, (alike passing s j ?_).1 ran, attempts⟩
    intro raw first r value c parsed given decoded
    cases first.symm.trans read
    have pair : (Request.parse (request "djpj")).toOption.bind (fun r =>
        r.authorization?.bind Credential.ofBasic?) = some ⟨"v".toList, "c".toList⟩ := by
      decide +kernel
    simp [parsed, given, decoded, Except.toOption] at pair
    subst pair
    decide
  · -- each of the runs reads the whole request, and each of the requests is refused
    have refusals : ∀ x ∈ [(p, "dTp4"), (q, "dTp4"), (q, "%%%%")],
        x.1.judge (request x.2) = (Policy.refusal, []) ∧
        (run x.1 {} (guess x.2)).any (fun done => done.2.firstRead? = some (request x.2) ∧
          (done.2.received .client).length = 100) = true := by decide +kernel
    have guessed (x : Policy × String) (member : x ∈ [(p, "dTp4"), (q, "dTp4"), (q, "%%%%")]) :
        ∃ s j, run x.1 {} (guess x.2) = some (s, j) ∧ (j.received .client).length = 100 ∧
          ∀ raw, j.firstRead? = some raw → x.1.Refuses raw := by
      obtain ⟨refused, last⟩ := refusals x member
      obtain ⟨⟨s, j⟩, ran, seen⟩ := (Option.any_eq_true _ _).1 last
      obtain ⟨read, told⟩ := of_decide_eq_true seen
      refine ⟨s, j, ran, told, ?_⟩
      intro raw first
      cases first.symm.trans read
      exact Policy.refuses_exact.2 refused
    obtain ⟨s, j, wrong, told, refused⟩ := guessed (p, "dTp4") (by simp)
    obtain ⟨t, k, unknown, _, refused'⟩ := guessed (q, "dTp4") (by simp)
    obtain ⟨u, l, garbled, _, refused''⟩ := guessed (q, "%%%%") (by simp)
    have events (one two : String) :
        (guess one).map Action.hushed = (guess two).map Action.hushed := rfl
    obtain ⟨one, _⟩ := blind _ _ _ _ _ _ (events _ _) wrong unknown refused refused'
    obtain ⟨two, _⟩ := blind _ _ _ _ _ _ (events _ _) wrong garbled refused refused''
    exact ⟨s, t, j, k, wrong, unknown, one, told, u, l, garbled, one.symm.trans two⟩

end Session

end GatedProxy
