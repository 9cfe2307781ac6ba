import GatedProxy.Proofs.Dial
import GatedProxy.Proofs.Session.Bytes
import GatedProxy.Proofs.Session.Gate

namespace GatedProxy

namespace Journal

def Unwritten (j : Journal) : Prop := ∀ who data, .wrote who data ∉ j

variable {j k : Journal}

theorem Unwritten.append (one : j.Unwritten) (two : k.Unwritten) : (j ++ k).Unwritten := by
  intro who data member
  rcases List.mem_append.1 member with member | member
  · exact one who data member
  · exact two who data member

theorem Quiet.unwritten (quiet : j.Quiet) : j.Unwritten := by
  intro who data member
  cases quiet _ member

theorem Unwritten.first (raw : Bytes) (events : List LogEvent) :
    Unwritten (.read .client raw :: events.map .log) := by
  intro who data member
  rcases List.mem_cons.1 member with same | member
  · cases same
  · exact (Quiet.logs events).unwritten who data member

end Journal

namespace Session

theorem heard_unwritten (who : End) (c : Connection) (event : FarEvent) :
    (heard who c event).Unwritten := by
  rcases heard_cases who c event with none | ⟨data, one⟩
  · rw [none]
    exact fun _ _ => List.not_mem_nil
  · rw [one]
    intro other bytes member
    cases List.mem_singleton.1 member

theorem dialTo_unwritten (client : Connection) (dest : Authority) (errand : Errand)
    (progress : Dial.Progress) : (dialTo client dest errand progress).2.Unwritten := by
  cases progress with
  | waiting question => cases question <;> simp [Journal.Unwritten, dialTo]
  | failed e => exact (finish_quiet client none _).unwritten
  | opened bytes => simp [Journal.Unwritten, dialTo]

theorem dialTo_firstRead? (client : Connection) (dest : Authority) (errand : Errand)
    (progress : Dial.Progress) : (dialTo client dest errand progress).2.firstRead? = none := by
  cases progress with
  | waiting question => cases question <;> rfl
  | failed e => exact (finish_quiet client none _).firstRead?
  | opened bytes => rfl

end Session

def Undialed (p : Policy) (j : Journal) : Prop :=
  ∀ raw dest errand, j.firstRead? = some raw → (p.judge raw).1 ≠ .dial dest errand

theorem Undialed.of_judge {p : Policy} {j : Journal} (first : j.firstRead? = some raw)
    (none : ∀ dest errand, (p.judge raw).1 ≠ .dial dest errand) : Undialed p j := by
  intro again dest errand same
  rw [first] at same
  cases same
  exact none dest errand

-- What has come of the dial when a session is in this phase. A dial that has failed is what the
-- session returns, and nothing was written before; with one that has connected the session holds an
-- upstream from then on.
inductive Reaching (p : Policy) (j : Journal) (told : List Dial.Answer) : Phase → Prop where
  | waits (unread : j.firstRead? = none) (untold : told = []) (silent : j.Unwritten) :
      Reaching p j told .awaitingRequest
  | answers (first : j.firstRead? = some raw) (judged : (p.judge raw).1 = .answer response outcome)
      (untold : told = []) : Reaching p j told (.answering left outcome)
  | dials (first : j.firstRead? = some raw) (judged : (p.judge raw).1 = .dial dest errand)
      (reached : Dial.reached (Dial.start dest.host) told = .waiting question)
      (silent : j.Unwritten) : Reaching p j told (.dialing dest errand question)
  | joins (first : j.firstRead? = some raw) (judged : (p.judge raw).1 = .dial dest errand)
      (reached : Dial.reached (Dial.start dest.host) told = .opened greeting) :
      Reaching p j told (.joined upstream dest exchange)
  | undialed (none : Undialed p j) (untold : told = [])
      (other : ∀ dest e, result ≠ some (.error (.dial dest e))) :
      Reaching p j told (.over upstream result)
  | failed (first : j.firstRead? = some raw) (judged : (p.judge raw).1 = .dial dest errand)
      (reached : Dial.reached (Dial.start dest.host) told = .failed e) (silent : j.Unwritten) :
      Reaching p j told (.over none (some (.error (.dial dest e))))
  | connected (first : j.firstRead? = some raw) (judged : (p.judge raw).1 = .dial dest errand)
      (reached : Dial.reached (Dial.start dest.host) told = .opened greeting)
      (other : ∀ dest e, result ≠ some (.error (.dial dest e))) :
      Reaching p j told (.over (some upstream) result)

namespace Reaching

open Session

variable {p : Policy} {j more : Journal} {told : List Dial.Answer} {s : Session}

theorem still (reaching : Reaching p j told now) (unread : more.firstRead? = none)
    (silent : more.Unwritten) : Reaching p (j ++ more) told now := by
  have read : (j ++ more).firstRead? = j.firstRead? := by simp [unread]
  cases reaching with
  | waits unread untold before => exact .waits (read.trans unread) untold (before.append silent)
  | answers first judged untold => exact .answers (read.trans first) judged untold
  | dials first judged reached before =>
    exact .dials (read.trans first) judged reached (before.append silent)
  | joins first judged reached => exact .joins (read.trans first) judged reached
  | undialed none untold other =>
    refine .undialed ?_ untold other
    rw [Undialed, read]
    exact none
  | failed first judged reached before =>
    exact .failed (read.trans first) judged reached (before.append silent)
  | connected first judged reached other => exact .connected (read.trans first) judged reached other

theorem quiet (reaching : Reaching p j told now) (quiet : more.Quiet) :
    Reaching p (j ++ more) told now := reaching.still quiet.firstRead? quiet.unwritten

theorem setUpstream (reaching : Reaching p j told s.phase) (c : Connection) :
    Reaching p j told (s.setUpstream c).phase := by
  unfold Session.setUpstream
  split
  · rename_i phase
    rw [phase] at reaching
    cases reaching with
    | joins first judged reached => exact .joins first judged reached
  · rename_i phase
    rw [phase] at reaching
    cases reaching with
    | undialed none untold other => exact .undialed none untold other
    | connected first judged reached other => exact .connected first judged reached other
  all_goals exact reaching

theorem waiting (reaching : Reaching p j told s.phase) (phase : s.phase = .awaitingRequest) :
    j.firstRead? = none ∧ told = [] ∧ j.Unwritten := by
  rw [phase] at reaching
  cases reaching with
  | waits unread untold silent => exact ⟨unread, untold, silent⟩

theorem asks (reaching : Reaching p j told s.phase)
    (phase : s.phase = .dialing dest errand question) :
    ∃ raw, j.firstRead? = some raw ∧ (p.judge raw).1 = .dial dest errand ∧
      Dial.reached (Dial.start dest.host) told = .waiting question ∧ j.Unwritten := by
  rw [phase] at reaching
  cases reaching with
  | dials first judged reached silent => exact ⟨_, first, judged, reached, silent⟩

theorem joined (reaching : Reaching p j told s.phase)
    (phase : s.phase = .joined upstream dest exchange) :
    ∃ raw errand greeting, j.firstRead? = some raw ∧ (p.judge raw).1 = .dial dest errand ∧
      Dial.reached (Dial.start dest.host) told = .opened greeting := by
  rw [phase] at reaching
  cases reaching with
  | joins first judged reached => exact ⟨_, _, _, first, judged, reached⟩

theorem calm {a : Action} (reaching : Reaching p j told now) (own : a.answer? = none) :
    Reaching p j (told ++ a.answer?.toList) now := by
  rw [own, Option.toList_none, List.append_nil]
  exact reaching

theorem refuses (none : Undialed p j) (other : ∀ dest e, result ≠ some (.error (.dial dest e)))
    (client : Connection) (upstream : Option Connection) :
    Reaching p j [] (endWith client upstream result).1.phase := by
  cases upstream <;> exact .undialed none rfl other

theorem ends (reaching : Reaching p j told s.phase)
    (phase : s.phase = .joined upstream dest exchange)
    (other : ∀ dest e, result ≠ some (.error (.dial dest e))) (client c : Connection) :
    Reaching p j told (endWith client (some c) result).1.phase := by
  obtain ⟨raw, errand, greeting, first, judged, reached⟩ := reaching.joined phase
  exact .connected first judged reached other

theorem onward (reaching : Reaching p j told s.phase)
    (phase : s.phase = .joined upstream dest exchange) (more : Journal) (c : Connection)
    (next : Exchange) : Reaching p (j ++ more) told (.joined c dest next) := by
  obtain ⟨raw, errand, greeting, first, judged, reached⟩ := reaching.joined phase
  exact .joins (by simp [first]) judged reached

theorem dialTo (first : j.firstRead? = some raw) (judged : (p.judge raw).1 = .dial dest errand)
    (reached : Dial.reached (Dial.start dest.host) told = progress) (silent : j.Unwritten)
    (client : Connection) :
    let moved := Session.dialTo client dest errand progress
    Reaching p (j ++ moved.2) told moved.1.phase := by
  have unread := dialTo_firstRead? client dest errand progress
  apply Reaching.still _ unread (dialTo_unwritten client dest errand progress)
  cases progress with
  | waiting question => exact .dials first judged reached silent
  | failed e => exact .failed first judged reached silent
  | opened bytes => cases errand <;> exact .joins first judged reached

theorem answered (reaching : Reaching p j told s.phase)
    (phase : s.phase = .answering left outcome) : Undialed p j ∧ told = [] := by
  rw [phase] at reaching
  cases reaching with
  | answers first judged untold => exact ⟨.of_judge first (by simp [judged]), untold⟩

theorem untold (reaching : Reaching p j told now) (unread : j.firstRead? = none) : told = [] := by
  cases reaching with
  | waits _ untold => exact untold
  | undialed _ untold => exact untold
  | answers first => rw [first] at unread; cases unread
  | dials first => rw [first] at unread; cases unread
  | joins first => rw [first] at unread; cases unread
  | failed first => rw [first] at unread; cases unread
  | connected first => rw [first] at unread; cases unread

theorem wrote (reaching : Reaching p j told s.phase) (pending : s.pending? = some (who, c, left))
    (accepted rest : Bytes) :
    Reaching p (j ++ [.wrote who accepted]) told (s.setPending rest).phase := by
  unfold pending? at pending
  split at pending <;> cases pending <;> rename_i phase <;> simp only [setPending, phase]
  · rw [phase] at reaching
    cases reaching with
    | answers first judged untold => exact .answers (by simp [first]) judged untold
  all_goals exact reaching.onward phase _ _ _

theorem writeFails (reaching : Reaching p j told s.phase)
    (pending : s.pending? = some (who, c, left)) (e : SystemError) :
    Reaching p j told (endWith s.client s.upstream? (some (.error (.io e)))).1.phase := by
  unfold pending? at pending
  split at pending <;> cases pending <;> rename_i phase
  · obtain ⟨none, rfl⟩ := reaching.answered phase
    exact refuses none (by simp) _ _
  all_goals
    rw [upstream?, phase]
    exact reaching.ends phase (by simp) _ _

theorem refuses_first (unread : j.firstRead? = none)
    (none : ∀ dest errand, (p.judge raw).1 ≠ .dial dest errand) (events : List LogEvent)
    (other : ∀ dest e, result ≠ some (.error (.dial dest e))) (client : Connection) :
    let moved := after (.read .client raw :: events.map .log) (endWith client .none result)
    Reaching p (j ++ moved.2) [] moved.1.phase := by
  have first := Journal.firstRead?_read unread raw (events.map .log)
  dsimp only [after]
  rw [← List.append_assoc]
  apply Reaching.quiet _ (endWith_parting client .none result).quiet
  exact refuses (.of_judge first none) other client .none

theorem step (reaching : Reaching p j told s.phase) (step : Step p s a moved) :
    Reaching p (j ++ moved.2) (told ++ a.answer?.toList) moved.1.phase := by
  cases step with
  | farClient =>
    exact calm (reaching.still (heard_firstRead? _ _ _) (heard_unwritten _ _ _)) rfl
  | farUpstream held =>
    exact calm ((reaching.setUpstream _).still (heard_firstRead? _ _ _) (heard_unwritten _ _ _)) rfl
  | requestUnheld phase large =>
    obtain ⟨unread, rfl, silent⟩ := reaching.waiting phase
    exact .quiet (refuses (by simp [Undialed, unread]) (by simp) _ _) (breakDown_parting _ _).quiet
  | requestFails phase fits took =>
    obtain ⟨unread, rfl, silent⟩ := reaching.waiting phase
    exact .quiet (refuses (by simp [Undialed, unread]) (by simp) _ _) (finish_quiet _ _ _)
  | requestEnds phase fits took =>
    obtain ⟨unread, rfl, silent⟩ := reaching.waiting phase
    have none : ∀ dest errand, (p.judge []).1 ≠ .dial dest errand := fun _ _ => nofun
    exact refuses_first unread none [] (by simp) _
  | requestMalformed phase fits took full judged =>
    obtain ⟨unread, rfl, silent⟩ := reaching.waiting phase
    exact refuses_first unread (by simp [judged]) _ (by simp) _
  | requestAnswered phase fits took full judged =>
    obtain ⟨unread, rfl, silent⟩ := reaching.waiting phase
    exact .answers (Journal.firstRead?_read unread _ _) (congrArg Prod.fst judged) rfl
  | requestDials phase fits took full judged =>
    obtain ⟨unread, rfl, silent⟩ := reaching.waiting phase
    rename_i client raw events dest errand
    have first := Journal.firstRead?_read unread raw (events.map .log)
    have dials := dialTo first (congrArg Prod.fst judged) (Dial.reached_nil _)
      (silent.append (.first raw events)) client
    dsimp only at dials
    rwa [List.append_assoc] at dials
  | resolved phase =>
    obtain ⟨raw, first, judged, reached, silent⟩ := reaching.asks phase
    rename_i dest errand answer
    have there : Dial.reached (Dial.start dest.host) (told ++ [.ofName answer]) =
      Dial.lookedUp answer := Dial.reached_snoc reached
    exact dialTo first judged there silent _
  | dialed phase =>
    obtain ⟨raw, first, judged, reached, silent⟩ := reaching.asks phase
    rename_i dest errand ip others answer
    have there : Dial.reached (Dial.start dest.host) (told ++ [.ofAddress answer]) =
      Dial.tried others answer := Dial.reached_snoc reached
    exact dialTo first judged there silent _
  | replyUnheld phase large =>
    exact calm (.quiet (reaching.ends phase (by simp) _ _) (breakDown_parting _ _).quiet) rfl
  | replyFails phase fits took =>
    exact calm (.quiet (reaching.ends phase (by simp) _ _) (finish_quiet _ _ _)) rfl
  | replyTaken phase fits took => exact calm (reaching.onward phase _ _ _) rfl
  | writeFails pending more wrote =>
    exact calm (.quiet (reaching.writeFails pending _) (finish_quiet _ _ _)) rfl
  | writes pending more wrote => exact calm (reaching.wrote pending _ _) rfl
  | answered phase =>
    obtain ⟨none, rfl⟩ := reaching.answered phase
    have shut := shutQuietly_quiet .client s.client
    exact .quiet (refuses none (by simp) _ _) (shut.append (finish_quiet _ _ _))
  | established phase => exact calm (reaching.onward phase _ _ _) rfl
  | requestSent phase => exact calm (reaching.onward phase _ _ _) rfl
  | replySent phase =>
    exact calm (.quiet (reaching.ends phase (by simp) _ _) (relayed_quiet _ _ _ _)) rfl
  | tunnel phase moved => exact calm (reaching.onward phase _ _ _) rfl
  | conclude phase done =>
    exact calm (.quiet (reaching.ends phase (by simp) _ _) (.cons rfl (finish_quiet _ _ _))) rfl

end Reaching

namespace Session

variable {p : Policy} {s : Session} {j : Journal} {actions : List Action}

theorem Ran.reaching (ran : Ran p {} actions s j) : Reaching p j (answers actions) s.phase := by
  induction ran with
  | start => exact .waits rfl rfl fun _ _ => List.not_mem_nil
  | step path step ih =>
    rw [answers_snoc]
    exact ih.step step

theorem Step.asked (step : Step p s a moved) (told : a.answer? = some answer) :
    ∃ dest errand question, s.phase = .dialing dest errand question ∧
      Dial.Answers question answer := by
  cases step with
  | resolved phase =>
    cases told
    exact ⟨_, _, _, phase, .name⟩
  | dialed phase =>
    cases told
    exact ⟨_, _, _, phase, .address⟩
  | _ => cases told

theorem Ran.goes (ran : Ran p {} actions s j) (first : j.firstRead? = some raw)
    (judged : (p.judge raw).1 = .dial dest errand) : Dial.Goes dest (answers actions) := by
  induction ran with
  | start => exact .nil dest
  | step path step ih =>
    rename_i before s j a moved
    have reaching := Ran.reaching path
    rw [answers_snoc]
    cases told : a.answer? with
    | none =>
      rw [Option.toList_none, List.append_nil]
      cases read : Journal.firstRead? j with
      | none => exact reaching.untold read ▸ .nil dest
      | some again =>
        rw [Journal.firstRead?_append, read] at first
        cases first
        exact ih read
    | some answer =>
      obtain ⟨_, _, question, phase, fits⟩ := step.asked told
      obtain ⟨again, read, also, reached, _⟩ := reaching.asks phase
      rw [Journal.firstRead?_append, read] at first
      cases first
      cases judged.symm.trans also
      exact (ih read).snoc reached fits

-- How a session stands to a dial for `dest` that has come so far.
inductive Dialed (p : Policy) (dest : Authority) (s : Session) (j : Journal) :
    Dial.Progress → Prop where
  | waiting (held : s.client.dropped = false) (pending : s.isOver = false) (silent : j.Unwritten)
      (unopened : .opened ∉ j)
      (open_ : ∀ answer, Dial.Answers question answer →
        ∃ a moved, a.answer? = some answer ∧ s.act p a = some moved) :
      Dialed p dest s j (.waiting question)
  | opened (once : j.count .opened = 1) (held : s.upstream? = some c) (kept : c.dropped = s.isOver)
      (other : ∀ dest e, s.result? ≠ some (.error (.dial dest e))) :
      Dialed p dest s j (.opened greeting)
  | failed (result : s.result? = some (.error (.dial dest e))) (closed : s.client.dropped = true)
      (none : s.upstream? = none) (unopened : .opened ∉ j) (silent : j.Unwritten) :
      Dialed p dest s j (.failed e)

theorem Step.answerable {s : Session} (phase : s.phase = .dialing dest errand question)
    (fits : Dial.Answers question answer) :
    ∃ a moved, a.answer? = some answer ∧ s.act p a = some moved := by
  cases fits with
  | name => exact ⟨.resolved _, _, rfl, act_complete (.resolved phase)⟩
  | address => exact ⟨.dialed _, _, rfl, act_complete (.dialed phase)⟩

theorem Dialed.of_reaching {told : List Dial.Answer} (reaching : Reaching p j told s.phase)
    (holds : Holds s) (first : j.firstRead? = some raw)
    (judged : (p.judge raw).1 = .dial dest errand)
    (way : Dial.Way dest told j.dialings (Dial.reached (Dial.start dest.host) told)) :
    Dialed p dest s j (Dial.reached (Dial.start dest.host) told) := by
  have counted : j.count .opened = j.dialings.count .opened := (List.count_filter rfl).symm
  obtain ⟨client, upstream⟩ := holds
  have same {again : Bytes} {other : Authority} {errand' : Errand}
      (read : j.firstRead? = some again) (also : (p.judge again).1 = .dial other errand') :
      other = dest := by
    rw [first] at read
    cases read
    rw [judged] at also
    cases also
    rfl
  generalize phase : s.phase = now at reaching
  cases reaching with
  | waits unread => rw [first] at unread; cases unread
  | answers read also =>
    rw [first] at read
    cases read
    rw [judged] at also
    cases also
  | dials read also reached silent =>
    cases same read also
    rw [reached] at way ⊢
    have goesOn : s.isOver = false := by simp [isOver, phase]
    exact .waiting (client.trans goesOn) goesOn silent (Journal.unopened (way.unopened (by simp)))
      fun answer fits => Step.answerable phase fits
  | joins read also reached =>
    cases same read also
    rw [reached] at way ⊢
    rename_i c exchange
    have held : s.upstream? = some c := by rw [upstream?, phase]
    exact .opened (counted.trans way.opens_once) held (upstream _ held) (by simp [result?, phase])
  | undialed none => exact absurd judged (none raw dest errand first)
  | failed read also reached silent =>
    cases same read also
    rw [reached] at way ⊢
    have ended : s.isOver = true := by simp [isOver, phase]
    exact .failed (by simp [result?, phase]) (client.trans ended) (by simp [upstream?, phase])
      (Journal.unopened (way.unopened (by simp))) silent
  | connected read also reached other =>
    cases same read also
    rw [reached] at way ⊢
    rename_i c
    have held : s.upstream? = some c := by rw [upstream?, phase]
    refine .opened (counted.trans way.opens_once) held (upstream _ held) ?_
    simpa [result?, phase] using other

theorem result?_isOver {s : Session} (returned : s.result? = some result) : s.isOver = true := by
  unfold result? at returned
  split at returned
  · rename_i phase
    rw [isOver, phase]
  · cases returned

theorem Dialed.returned (dialed : Dialed p dest s j progress)
    (returned : s.result? = some (.error (.dial other e))) :
    other = dest ∧ progress = .failed e := by
  cases dialed with
  | waiting held pending =>
    rw [result?_isOver returned] at pending
    cases pending
  | opened once held kept none => exact absurd returned (none other e)
  | failed result =>
    rw [result] at returned
    cases returned
    exact ⟨rfl, rfl⟩

theorem Dialed.silent (dialed : Dialed p dest s j progress) (closed : .opened ∉ j) :
    j.Unwritten ∧ ∀ outcome, s.result? ≠ some (.ok outcome) := by
  cases dialed with
  | waiting held pending silent =>
    refine ⟨silent, ?_⟩
    intro outcome returned
    rw [result?_isOver returned] at pending
    cases pending
  | opened once =>
    rw [List.count_eq_zero.2 closed] at once
    cases once
  | failed result closed none unopened silent => exact ⟨silent, by simp [result]⟩

theorem Ran.dialed (ran : Ran p {} actions s j) (first : j.firstRead? = some raw)
    (judged : (p.judge raw).1 = .dial dest errand) :
    ∃ progress, Dial.Way dest (answers actions) j.dialings progress ∧ Dialed p dest s j progress := by
  have way := Ran.goes ran first judged
  have dialings := (Course.of_ran ran).dialings
  rw [first, Policy.dialing_of_judge judged] at dialings
  rw [Dial.Goes, ← dialings] at way
  exact ⟨_, way, .of_reaching (Ran.reaching ran) (Ran.holds ran) first judged way⟩

-- The addresses of the host are tried in their order up to the first that connects, and the session
-- then holds that one connection. If none does, the session returns the error of the last of them,
-- or that of the lookup, and nobody has been written to.
theorem dial_exact (ran : Session.run p {} actions = some (s, j)) (first : j.firstRead? = some raw)
    (admits : p.Admits raw dest) :
    ∃ progress, Dial.Way dest (answers actions) j.dialings progress ∧ Dialed p dest s j progress ∧
      ∀ other e, s.result? = some (.error (.dial other e)) → progress = .failed e ∧
        other.toText = dest.host ++ ':' :: Text.decimal dest.port.toNat := by
  obtain ⟨errand, judged⟩ := Policy.judge_of_admits admits
  obtain ⟨progress, way, dialed⟩ := Ran.dialed (run_exact.1 ran) first judged
  refine ⟨progress, way, dialed, ?_⟩
  intro other e returned
  obtain ⟨rfl, failed⟩ := dialed.returned returned
  exact ⟨failed, rfl⟩

theorem dial_exact_refused :
    let p : Policy := { credentials := .ofList [⟨"u".toList, "a".toList⟩] }
    let request := Text.utf8 "CONNECT h:80\r\nProxy-Authorization: Basic dTph\r\n\r\n".toList
    let dest : Authority := ⟨"h".toList, 80⟩
    let one : IpAddress := .v4 ⟨1, 2, 3, 4⟩
    let two : IpAddress := .v4 ⟨5, 6, 7, 8⟩
    let actions : List Action := [.far .client (.send request), .read, .resolved (.ok [one, two]),
      .dialed (.error .refused), .dialed (.error (.os 113)), .far .client (.send [1])]
    ∃ s j, Session.run p {} actions = some (s, j) ∧ j.firstRead? = some request ∧
      p.Admits request dest ∧ Dialed p dest s j (.failed (.os 113)) ∧
      j.dialings = Dial.questions dest [dest.host] [one, two] := by
  intro p request dest one two actions
  have last : (Session.run p {} actions).any (fun done => done.2.firstRead? = some request ∧
      done.1.result? = some (.error (.dial dest (.os 113))) ∧
      done.2.dialings = Dial.questions dest [dest.host] [one, two]) = true := by decide +kernel
  obtain ⟨⟨s, j⟩, ran, seen⟩ := (Option.any_eq_true _ _).1 last
  obtain ⟨first, result, dialings⟩ := of_decide_eq_true seen
  have judged : (p.judge request).1 = .dial dest .tunnel := by decide +kernel
  have admits := Policy.admits_of_judge judged
  obtain ⟨progress, _, dialed, returned⟩ := dial_exact ran first admits
  obtain ⟨rfl, _⟩ := returned dest _ result
  exact ⟨s, j, ran, first, admits, dialed, dialings⟩

end Session

end GatedProxy
