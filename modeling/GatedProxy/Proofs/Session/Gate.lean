import GatedProxy.Proofs.Dial
import GatedProxy.Proofs.Session.Step
import GatedProxy.Proofs.Tunnel.Step

namespace GatedProxy

namespace Policy

def Admits (p : Policy) (raw : Bytes) (dest : Authority) : Prop :=
  ∃ r user line, Request.parse raw = .ok r ∧
    p.credentials.judge r.authorization? = .accepted user ∧ RequestLine.parse r.line = .ok line ∧
    (Target.resolve line = .ok (.tunnel dest) ∨ Target.resolve line = .ok (.http dest))

theorem admits_of_judge {p : Policy} (judged : (p.judge raw).1 = .dial dest errand) :
    p.Admits raw dest := by
  unfold judge at judged
  split at judged
  · cases judged
  · rename_i r parsed
    unfold judgeRequest at judged
    split at judged
    · cases judged
    · cases judged
    · rename_i user accepted
      dsimp only at judged
      split at judged
      · cases judged
      · rename_i line words
        split at judged
        · cases judged
        · rename_i target resolved
          refine ⟨r, user, line, parsed, accepted, words, ?_⟩
          cases target with
          | tunnel dest => cases judged; exact .inl resolved
          | http dest => cases judged; exact .inr resolved
          | unsupported => cases judged

theorem judge_of_admits {p : Policy} (admits : p.Admits raw dest) :
    ∃ errand, (p.judge raw).1 = .dial dest errand := by
  obtain ⟨r, user, line, parsed, accepted, words, resolved | resolved⟩ := admits
  · exact ⟨.tunnel, by simp [judge, parsed, judgeRequest, accepted, words, resolved, judgeTarget]⟩
  · exact ⟨.relay r.raw,
      by simp [judge, parsed, judgeRequest, accepted, words, resolved, judgeTarget]⟩

-- All that a session does to get its connection, from its first read and from what the network
-- answers to the dial.
def dialing (p : Policy) (first : Option Bytes) (answers : List Dial.Answer) : Journal :=
  match first.map fun raw => (p.judge raw).1 with
  | some (.dial dest _) => Dial.trace dest (Dial.start dest.host) answers
  | _ => []

theorem dialing_of_judge {p : Policy} (judged : (p.judge raw).1 = .dial dest errand)
    (answers : List Dial.Answer) :
    p.dialing (some raw) answers = Dial.trace dest (Dial.start dest.host) answers := by
  simp [dialing, judged]

theorem dialing_prefix (p : Policy) (first : Option Bytes) {fewer more : List Dial.Answer}
    (part : fewer <+: more) : p.dialing first fewer <+: p.dialing first more := by
  unfold dialing
  split
  · exact Dial.trace_prefix _ _ part
  · exact List.prefix_rfl

theorem dialing_opens_once (p : Policy) (first : Option Bytes) (answers : List Dial.Answer) :
    (p.dialing first answers).count .opened ≤ 1 := by
  unfold dialing
  split
  · exact Dial.trace_opens_once _ _ answers
  · exact Nat.zero_le 1

end Policy

def Session.Action.answer? : Session.Action → Option Dial.Answer
  | .resolved answer => some (.ofName answer)
  | .dialed answer => some (.ofAddress answer)
  | .far _ _ | .read | .write _ | .tunnel _ | .conclude => none

def Session.answers (actions : List Session.Action) : List Dial.Answer :=
  actions.filterMap Session.Action.answer?

theorem Session.answers_snoc (actions : List Session.Action) (a : Session.Action) :
    answers (actions ++ [a]) = answers actions ++ a.answer?.toList := by
  cases told : a.answer? <;> simp [answers, told]

def Errand.isTunnel : Errand → Bool
  | .tunnel => true
  | .relay _ => false

def Exchange.isTunnel : Exchange → Bool
  | .establishing _ | .tunneling _ => true
  | .sendingRequest _ | .awaitingReply | .sendingReply _ _ => false

inductive Standing (p : Policy) : Option Bytes → List Dial.Answer → Phase → Prop where
  | waits : Standing p none [] .awaitingRequest
  | answers (judged : (p.judge raw).1 = .answer response outcome) :
      Standing p (some raw) [] (.answering left outcome)
  | dials (judged : (p.judge raw).1 = .dial dest errand)
      (reached : Dial.reached (Dial.start dest.host) answers = .waiting question) :
      Standing p (some raw) answers (.dialing dest errand question)
  | joins (judged : (p.judge raw).1 = .dial dest errand) (serves : exchange.isTunnel = errand.isTunnel) :
      Standing p (some raw) answers (.joined upstream dest exchange)
  | ends : Standing p first answers (.over upstream result)

def Gated (p : Policy) (j : Journal) : Prop :=
  ∀ (before : Journal) (o : Occurrence) (later : Journal), j = before ++ o :: later →
    o.isOutward = true →
      ∃ raw dest errand, before.firstRead? = some raw ∧ (p.judge raw).1 = .dial dest errand

theorem Gated.extend {p : Policy} {j more : Journal} (gated : Gated p j)
    (new : ∀ (before : Journal) (o : Occurrence) (later : Journal), more = before ++ o :: later →
      o.isOutward = true → ∃ raw dest errand, (j ++ before).firstRead? = some raw ∧
        (p.judge raw).1 = .dial dest errand) : Gated p (j ++ more) := by
  intro before o later split outward
  rcases List.append_eq_append_iff.1 split with ⟨middle, rfl, rest⟩ | ⟨middle, rfl, rest⟩
  · exact new middle o later rest outward
  · cases middle with
    | nil => simpa using new [] o later rest.symm outward
    | cons first middle =>
      cases rest
      exact gated before o middle rfl outward

theorem Gated.still {p : Policy} {j more : Journal} (gated : Gated p j)
    (still : ∀ o ∈ more, o.isOutward = false) : Gated p (j ++ more) := by
  apply gated.extend
  intro before o later split outward
  have member : o ∈ more := by simp [split]
  rw [still o member] at outward
  cases outward

theorem Gated.passed {p : Policy} {j : Journal} (gated : Gated p j)
    (first : j.firstRead? = some raw) (judged : (p.judge raw).1 = .dial dest errand)
    (more : Journal) : Gated p (j ++ more) := by
  apply gated.extend
  intro before o later split outward
  exact ⟨raw, dest, errand, by simp [first], judged⟩

namespace Standing

variable {p : Policy} {first : Option Bytes} {told : List Dial.Answer} {s : Session}

theorem awaiting (standing : Standing p first told s.phase)
    (phase : s.phase = .awaitingRequest) : first = none ∧ told = [] := by
  rw [phase] at standing
  cases standing
  exact ⟨rfl, rfl⟩

theorem dialing (standing : Standing p first told s.phase)
    (phase : s.phase = .dialing dest errand question) :
    ∃ raw, first = some raw ∧ (p.judge raw).1 = .dial dest errand ∧
      Dial.reached (Dial.start dest.host) told = .waiting question := by
  rw [phase] at standing
  cases standing with
  | dials judged reached => exact ⟨_, rfl, judged, reached⟩

theorem joined (standing : Standing p first told s.phase)
    (phase : s.phase = .joined upstream dest exchange) :
    ∃ raw errand, first = some raw ∧ (p.judge raw).1 = .dial dest errand ∧
      exchange.isTunnel = errand.isTunnel := by
  rw [phase] at standing
  cases standing with
  | joins judged serves => exact ⟨_, _, rfl, judged, serves⟩

theorem finished (p : Policy) (first : Option Bytes) (told : List Dial.Answer)
    (client : Connection) (upstream : Option Connection) (result : Option SessionResult) :
    Standing p first told (Session.endWith client upstream result).1.phase := by
  cases upstream <;> exact .ends

theorem setUpstream (standing : Standing p first told s.phase) (c : Connection) :
    Standing p first told (s.setUpstream c).phase := by
  unfold Session.setUpstream
  split
  · rename_i phase
    obtain ⟨raw, errand, rfl, judged, serves⟩ := standing.joined phase
    exact .joins judged serves
  · exact .ends
  all_goals exact standing

theorem setPending (standing : Standing p first told s.phase) (left : Bytes) :
    Standing p first told (s.setPending left).phase := by
  unfold Session.setPending
  split
  · rename_i phase
    rw [phase] at standing
    cases standing with
    | answers judged => exact .answers judged
  case h_5 => exact standing
  all_goals
    rename_i phase
    obtain ⟨raw, errand, rfl, judged, serves⟩ := standing.joined phase
    exact .joins judged serves

end Standing

namespace Session

theorem dialTo_standing {p : Policy} (judged : (p.judge raw).1 = .dial dest errand)
    (reached : Dial.reached (Dial.start dest.host) told = progress) (client : Connection) :
    Standing p (some raw) told (dialTo client dest errand progress).1.phase := by
  cases progress with
  | waiting question => exact .dials judged reached
  | failed e => exact .ends
  | opened bytes => cases errand <;> exact .joins judged rfl

theorem dialTo_dialings (client : Connection) (dest : Authority) (errand : Errand)
    (progress : Dial.Progress) :
    (dialTo client dest errand progress).2.dialings = progress.asked dest := by
  cases progress with
  | waiting question => cases question <;> rfl
  | failed e => exact (finish_quiet client none _).dialings
  | opened bytes => rfl

end Session

theorem Tunnel.Step.dialings {t : Tunnel} {ends : Ends}
    (step : Tunnel.Step room t ends a (t', ends', journal)) : journal.dialings = [] := by
  cases step with
  | shuts loop shut => split <;> rfl
  | _ => rfl

-- What holds of a session at every moment: its phase, its dial and what it let out agree.
structure Course (p : Policy) (actions : List Session.Action) (s : Session) (j : Journal) :
    Prop where
  standing : Standing p j.firstRead? (Session.answers actions) s.phase
  dialings : j.dialings = p.dialing j.firstRead? (Session.answers actions)
  gated : Gated p j

namespace Course

open Session

variable {p : Policy} {actions : List Session.Action} {s t : Session} {j more : Journal}

theorem start (p : Policy) : Course p [] {} [] := by
  refine ⟨.waits, rfl, ?_⟩
  intro before o later split
  simp at split

theorem still (course : Course p actions s j) (own : a.answer? = none)
    (read : (j ++ more).firstRead? = j.firstRead?) (still : more.dialings = [])
    (gated : Gated p (j ++ more))
    (standing : Standing p j.firstRead? (answers actions) t.phase) :
    Course p (actions ++ [a]) t (j ++ more) := by
  have same : answers (actions ++ [a]) = answers actions := by simp [answers, own]
  refine ⟨?_, ?_, gated⟩
  · rw [read, same]
    exact standing
  · rw [read, same, Journal.dialings_append, still, List.append_nil]
    exact course.dialings

theorem quiet (course : Course p actions s j) (own : a.answer? = none) (quiet : more.Quiet)
    (standing : Standing p j.firstRead? (answers actions) t.phase) :
    Course p (actions ++ [a]) t (j ++ more) := by
  have read : (j ++ more).firstRead? = j.firstRead? := by simp [quiet.firstRead?]
  exact course.still own read quiet.dialings
    (course.gated.still fun o member => quiet.outward member) standing

theorem passed (course : Course p actions s j) (own : a.answer? = none)
    (first : j.firstRead? = some raw) (judged : (p.judge raw).1 = .dial dest errand)
    (still : more.dialings = []) (standing : Standing p (some raw) (answers actions) t.phase) :
    Course p (actions ++ [a]) t (j ++ more) := by
  rw [← first] at standing
  have read : (j ++ more).firstRead? = j.firstRead? := by simp [first]
  exact course.still own read still (course.gated.passed first judged more) standing

theorem first {events : List LogEvent} (course : Course p actions s j)
    (phase : s.phase = .awaitingRequest) (dialings : more.dialings = p.dialing (some raw) [])
    (admitted : ∀ o ∈ more, o.isOutward = true → ∃ dest errand, (p.judge raw).1 = .dial dest errand)
    (standing : Standing p (some raw) [] t.phase) :
    Course p (actions ++ [.read]) t (j ++ ((.read .client raw :: events.map .log) ++ more)) := by
  obtain ⟨unread, told⟩ := course.standing.awaiting phase
  have same : answers (actions ++ [.read]) = [] := by simpa [answers, Action.answer?] using told
  have logs := Journal.Quiet.logs events
  have read (later : Journal) := Journal.firstRead?_read unread raw later
  refine ⟨?_, ?_, ?_⟩
  · rw [List.cons_append, read, same]
    exact standing
  · rw [List.cons_append, read, same, ← dialings]
    have none : j.dialings = [] := by rw [course.dialings, unread]; rfl
    have opening : Journal.dialings (.read .client raw :: (events.map .log ++ more)) =
        Journal.dialings (events.map .log ++ more) := rfl
    rw [Journal.dialings_append, none, opening, Journal.dialings_append, logs.dialings]
    rfl
  · apply course.gated.extend
    intro before o later split outward
    rw [List.cons_append] at split
    cases before with
    | nil =>
      cases split
      cases outward
    | cons x before =>
      rw [List.cons_append] at split
      obtain ⟨rfl, rest⟩ := List.cons.inj split
      have member : o ∈ events.map .log ++ more := by simp [rest]
      rcases List.mem_append.1 member with member | member
      · rw [logs.outward member] at outward
        cases outward
      · obtain ⟨dest, errand, judged⟩ := admitted o member outward
        exact ⟨raw, dest, errand, read before, judged⟩

theorem dialed (course : Course p actions s j) (first : j.firstRead? = some raw)
    (judged : (p.judge raw).1 = .dial dest errand)
    (reached : Dial.reached (Dial.start dest.host) (answers actions) = .waiting question)
    (told : a.answer? = some answer) :
    let moved := dialTo s.client dest errand (question.answered answer)
    Course p (actions ++ [a]) moved.1 (j ++ moved.2) := by
  intro moved
  have more : answers (actions ++ [a]) = answers actions ++ [answer] := by simp [answers, told]
  have read : (j ++ moved.2).firstRead? = some raw := by simp [first]
  have there : Dial.reached (Dial.start dest.host) (answers actions ++ [answer]) =
      question.answered answer := Dial.reached_snoc reached
  refine ⟨?_, ?_, course.gated.passed first judged moved.2⟩
  · rw [read, more]
    exact dialTo_standing judged there s.client
  · have before := course.dialings
    rw [first, Policy.dialing_of_judge judged] at before
    rw [read, more, Policy.dialing_of_judge judged, Dial.trace_snoc reached,
      Journal.dialings_append, before, dialTo_dialings]

theorem refused (course : Course p actions s j) (events : List LogEvent)
    (phase : s.phase = .awaitingRequest) (judged : ∀ dest errand, (p.judge raw).1 ≠ .dial dest errand)
    (quiet : more.Quiet) (standing : Standing p (some raw) [] t.phase) :
    Course p (actions ++ [.read]) t (j ++ ((.read .client raw :: events.map .log) ++ more)) := by
  refine course.first phase ?_ ?_ standing
  · rw [quiet.dialings]
    unfold Policy.dialing
    split
    · rename_i dest errand dial
      exact absurd (Option.some.inj dial) (judged dest errand)
    · rfl
  · intro o member outward
    rw [quiet.outward member] at outward
    cases outward

theorem far (course : Course p actions s j) (who : End) (c : Connection) (event : FarEvent)
    (standing : Standing p j.firstRead? (answers actions) t.phase) :
    Course p (actions ++ [.far who event]) t (j ++ heard who c event) := by
  rcases heard_cases who c event with none | ⟨data, one⟩
  · rw [none]
    exact course.quiet rfl .nil standing
  · rw [one]
    have read : Journal.firstRead? (j ++ [.arrived who data]) = j.firstRead? := by
      rw [Journal.firstRead?_append]
      exact Option.or_none
    refine course.still rfl read rfl (course.gated.still ?_) standing
    intro o member
    cases List.mem_singleton.1 member
    rfl

theorem wrote (course : Course p actions s j) (pending : s.pending? = some (who, c, left))
    (accepted rest : Bytes) (size : Nat) :
    Course p (actions ++ [.write size]) (s.setPending rest) (j ++ [.wrote who accepted]) := by
  have standing := course.standing.setPending rest
  have read : Journal.firstRead? (j ++ [.wrote who accepted]) = j.firstRead? := by
    rw [Journal.firstRead?_append]
    exact Option.or_none
  refine course.still rfl read rfl ?_ standing
  cases who with
  | client =>
    apply course.gated.still
    intro o member
    cases List.mem_singleton.1 member
    rfl
  | upstream =>
    unfold pending? at pending
    split at pending <;> cases pending
    rename_i phase
    obtain ⟨raw, errand, first, judged, _⟩ := course.standing.joined phase
    exact course.gated.passed first judged _

theorem step (course : Course p actions s j) (step : Step p s a moved) :
    Course p (actions ++ [a]) moved.1 (j ++ moved.2) := by
  cases step with
  | farClient => exact course.far .client s.client _ course.standing
  | farUpstream held => exact course.far .upstream _ _ (course.standing.setUpstream _)
  | requestUnheld => exact course.quiet rfl (breakDown_parting _ _).quiet .ends
  | requestFails => exact course.quiet rfl (finish_quiet _ _ _) .ends
  | requestEnds phase fits took =>
    exact course.refused [] phase (fun _ _ => nofun) (finish_quiet _ _ _) .ends
  | requestMalformed phase fits took full judged =>
    exact course.refused _ phase (by simp [judged]) (finish_quiet _ _ _) .ends
  | requestAnswered phase fits took full judged =>
    rename_i raw events response outcome
    have answers : (p.judge raw).1 = .answer response outcome := congrArg Prod.fst judged
    simpa using course.refused _ phase (by simp [answers]) .nil (.answers answers)
  | requestDials phase fits took full judged =>
    rename_i client raw events dest errand
    have dials : (p.judge raw).1 = .dial dest errand := congrArg Prod.fst judged
    have standing := dialTo_standing dials (Dial.reached_nil _) client
    refine course.first phase ?_ (fun _ _ _ => ⟨dest, errand, dials⟩) standing
    rw [dialTo_dialings, Policy.dialing_of_judge dials, Dial.trace_nil]
  | resolved phase =>
    rename_i answer
    obtain ⟨raw, first, judged, reached⟩ := course.standing.dialing phase
    have told : Action.answer? (.resolved answer) = some (.ofName answer) := rfl
    exact course.dialed first judged reached told
  | dialed phase =>
    rename_i answer
    obtain ⟨raw, first, judged, reached⟩ := course.standing.dialing phase
    have told : Action.answer? (.dialed answer) = some (.ofAddress answer) := rfl
    exact course.dialed first judged reached told
  | replyUnheld => exact course.quiet rfl (breakDown_parting _ _).quiet .ends
  | replyFails => exact course.quiet rfl (finish_quiet _ _ _) .ends
  | replyTaken phase =>
    obtain ⟨raw, errand, first, judged, serves⟩ := course.standing.joined phase
    exact course.passed rfl first judged rfl (.joins judged serves)
  | writeFails => exact course.quiet rfl (finish_quiet _ _ _) (.finished _ _ _ _ _ _)
  | writes pending => exact course.wrote pending _ _ _
  | answered =>
    exact course.quiet rfl ((shutQuietly_quiet _ _).append (finish_quiet _ _ _)) .ends
  | established phase =>
    obtain ⟨raw, errand, first, judged, serves⟩ := course.standing.joined phase
    exact course.passed rfl first judged rfl (.joins judged serves)
  | requestSent phase =>
    obtain ⟨raw, errand, first, judged, serves⟩ := course.standing.joined phase
    exact course.passed rfl first judged rfl (.joins judged serves)
  | replySent => exact course.quiet rfl (relayed_quiet _ _ _ _) .ends
  | tunnel phase moved =>
    obtain ⟨raw, errand, first, judged, serves⟩ := course.standing.joined phase
    have still := (Tunnel.act_sound moved).dialings
    exact course.passed rfl first judged still (.joins judged serves)
  | conclude => exact course.quiet rfl (.cons rfl (finish_quiet _ _ _)) .ends

theorem of_ran (ran : Session.Ran p {} actions s j) : Course p actions s j := by
  induction ran with
  | start => exact .start p
  | step path step ih => exact ih.step step

end Course

-- A lookup of the name of `dest`, an attempt at its port and at an address that is its host or that
-- the name service gave for it, or what follows on the connection that came of that.
def Occurrence.IsFor (dest : Authority) (told : List Dial.Answer) : Occurrence → Prop
  | .lookup host => host = dest.host
  | .attempt address =>
    address.port = dest.port ∧
      (IpAddress.ofText? dest.host = some address.ip ∨ Dial.Named told address.ip)
  | .opened | .wrote .upstream _ => True
  | _ => False

theorem Occurrence.isFor_of_serves {o : Occurrence}
    (serves : Dial.Serves dest (Dial.start dest.host) told o) : o.IsFor dest told := by
  cases o with
  | lookup host => exact serves
  | attempt address =>
    obtain ⟨port, literal | named⟩ := serves
    · exact ⟨port, .inl (Dial.start_ips literal)⟩
    · exact ⟨port, .inr named⟩
  | opened => trivial
  | _ => cases serves

theorem Course.isFor {p : Policy} {s : Session} {j : Journal} (course : Course p actions s j)
    (first : j.firstRead? = some raw) (judged : (p.judge raw).1 = .dial dest errand)
    (member : o ∈ j) (outward : o.isOutward = true) :
    o.IsFor dest (Session.answers actions) := by
  by_cases dialing : o.isDialing = true
  · apply Occurrence.isFor_of_serves
    apply Dial.trace_serves
    rw [← Policy.dialing_of_judge judged, ← first, ← course.dialings]
    exact List.mem_filter.2 ⟨member, dialing⟩
  · cases o with
    | wrote who data =>
      cases who with
      | client => cases outward
      | upstream => trivial
    | lookup host => exact absurd rfl dialing
    | attempt address => exact absurd rfl dialing
    | opened => exact absurd rfl dialing
    | _ => cases outward

namespace Session

-- The network hears of a session only what its first read asks for and may ask for, and hears the
-- same from every session that reads this first and gets the same answers.
theorem run_gated {p : Policy} {actions : List Action} {s : Session} {j : Journal}
    (ran : Session.run p {} actions = some (s, j)) :
    (∀ (before : Journal) (o : Occurrence) (later : Journal), j = before ++ o :: later →
      o.isOutward = true → ∃ raw dest, before.firstRead? = some raw ∧ p.Admits raw dest ∧
        o.IsFor dest (answers actions)) ∧
    j.count .opened ≤ 1 ∧
    ∀ (others : List Action) (t : Session) (k : Journal),
      Session.run p {} others = some (t, k) → k.firstRead? = j.firstRead? →
        (answers others = answers actions → k.dialings = j.dialings) ∧
        (answers others <+: answers actions → k.dialings <+: j.dialings) := by
  have course := Course.of_ran (run_exact.1 ran)
  refine ⟨?_, ?_, ?_⟩
  · intro before o later split outward
    obtain ⟨raw, dest, errand, first, judged⟩ := course.gated before o later split outward
    have whole : j.firstRead? = some raw := by simp [split, first]
    have member : o ∈ j := by simp [split]
    exact ⟨raw, dest, first, Policy.admits_of_judge judged,
      course.isFor whole judged member outward⟩
  · have counted : j.count .opened = j.dialings.count .opened :=
      (List.count_filter rfl).symm
    rw [counted, course.dialings]
    exact p.dialing_opens_once _ _
  · intro others t k went same
    have other := Course.of_ran (run_exact.1 went)
    constructor
    · intro equal
      rw [other.dialings, course.dialings, same, equal]
    · intro part
      rw [other.dialings, course.dialings, same]
      exact p.dialing_prefix _ part

theorem run_gated_connect :
    let p : Policy := { credentials := .ofList [⟨"u".toList, "a".toList⟩] }
    let request := "CONNECT h:80\r\nproxy-authorization: Basic dTph\r\n\r\n".toList
    let actions : List Action := [.far .client (.send (Text.utf8 request)), .read,
      .resolved (.ok [.v4 ⟨1, 2, 3, 4⟩])]
    ∃ s j, Session.run p {} actions = some (s, j) ∧
      (∃ raw dest, j.firstRead? = some raw ∧ p.Admits raw dest ∧
        Occurrence.IsFor dest (answers actions) (.attempt ⟨.v4 ⟨1, 2, 3, 4⟩, 80⟩)) ∧
      j.count .opened ≤ 1 := by
  intro p request actions
  have possible : (Session.run p {} actions).isSome = true := by decide +kernel
  obtain ⟨⟨s, j⟩, ran⟩ := Option.isSome_iff_exists.1 possible
  have attempts : (Session.run p {} actions).any
      (fun done => .attempt ⟨.v4 ⟨1, 2, 3, 4⟩, 80⟩ ∈ done.2) = true := by decide +kernel
  rw [ran] at attempts
  have member : .attempt ⟨.v4 ⟨1, 2, 3, 4⟩, 80⟩ ∈ j := of_decide_eq_true attempts
  obtain ⟨before, later, split⟩ := List.append_of_mem member
  obtain ⟨gated, once, _⟩ := run_gated ran
  obtain ⟨raw, dest, first, admits, isFor⟩ := gated before _ later split rfl
  exact ⟨s, j, ran, ⟨raw, dest, by simp [split, first], admits, isFor⟩, once⟩

end Session

end GatedProxy
