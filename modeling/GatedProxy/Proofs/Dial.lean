import GatedProxy.Proofs.Session.Journal

namespace GatedProxy.Dial

inductive Answer where
  | ofName (answer : Except SystemError (List IpAddress))
  | ofAddress (answer : Except SystemError Bytes)

def asked (dest : Authority) : Dial → Occurrence
  | .lookingUp => .lookup dest.host
  | .trying ip _ => .attempt ⟨ip, dest.port⟩

-- An answer to another question than the one that is out leads nowhere.
def answered : Dial → Answer → Progress
  | .lookingUp, .ofName answer => lookedUp answer
  | .trying _ others, .ofAddress answer => tried others answer
  | question, _ => .waiting question

@[simp] def Progress.asked (dest : Authority) : Progress → Journal
  | .waiting question => [question.asked dest]
  | .opened _ => [.opened]
  | .failed _ => []

def reached : Progress → List Answer → Progress
  | .waiting question, answer :: later => reached (question.answered answer) later
  | progress, _ => progress

def trace (dest : Authority) : Progress → List Answer → Journal
  | .waiting question, answer :: later =>
    question.asked dest :: trace dest (question.answered answer) later
  | progress, _ => progress.asked dest

@[simp] theorem reached_nil (progress : Progress) : reached progress [] = progress := by
  cases progress <;> rfl

@[simp] theorem trace_nil (dest : Authority) (progress : Progress) :
    trace dest progress [] = progress.asked dest := by
  cases progress <;> rfl

@[simp] theorem trace_failed (dest : Authority) (e : SystemError) (answers : List Answer) :
    trace dest (.failed e) answers = [] := by
  cases answers <;> rfl

@[simp] theorem trace_opened (dest : Authority) (bytes : Bytes) (answers : List Answer) :
    trace dest (.opened bytes) answers = [.opened] := by
  cases answers <;> rfl

theorem reached_snoc {progress : Progress} {answers : List Answer}
    (waiting : reached progress answers = .waiting question) :
    reached progress (answers ++ [answer]) = question.answered answer := by
  induction answers generalizing progress with
  | nil =>
    cases progress <;> cases waiting
    simp only [List.nil_append, reached]
    cases question.answered answer <;> rfl
  | cons first later ih =>
    cases progress with
    | waiting question => exact ih waiting
    | failed e => cases waiting
    | opened bytes => cases waiting

theorem trace_snoc {progress : Progress} {answers : List Answer}
    (waiting : reached progress answers = .waiting question) :
    trace dest progress (answers ++ [answer]) =
      trace dest progress answers ++ (question.answered answer).asked dest := by
  induction answers generalizing progress with
  | nil =>
    cases progress <;> cases waiting
    simp [trace, Progress.asked]
  | cons first later ih =>
    cases progress with
    | waiting question => simpa [trace] using ih waiting
    | failed e => cases waiting
    | opened bytes => cases waiting

theorem trace_prefix (dest : Authority) (progress : Progress) {fewer more : List Answer}
    (part : fewer <+: more) : trace dest progress fewer <+: trace dest progress more := by
  induction fewer generalizing progress more with
  | nil =>
    cases progress with
    | waiting question =>
      cases more with
      | nil => exact List.prefix_rfl
      | cons first later => exact ⟨_, rfl⟩
    | failed e => simp
    | opened bytes => simp
  | cons first fewer ih =>
    obtain ⟨rest, rfl⟩ := part
    cases progress with
    | waiting question => exact (List.prefix_cons_inj _).2 (ih _ (List.prefix_append fewer rest))
    | failed e => simp
    | opened bytes => simp

theorem trace_opens_once (dest : Authority) (progress : Progress) (answers : List Answer) :
    (trace dest progress answers).count .opened ≤ 1 := by
  induction answers generalizing progress with
  | nil =>
    cases progress with
    | waiting question => cases question <;> simp [Progress.asked, asked]
    | failed e => simp
    | opened bytes => simp
  | cons first later ih =>
    cases progress with
    | waiting question => cases question <;> simpa [trace, asked] using ih _
    | failed e => simp
    | opened bytes => simp

def said (net : Network) (dest : Authority) : Dial → Answer
  | .lookingUp => .ofName (net.lookup dest.host)
  | .trying ip _ => .ofAddress (net.connect ⟨ip, dest.port⟩)

-- Each answer is what the network has to say to the question that is out.
def Hears (net : Network) (dest : Authority) : Progress → List Answer → Prop
  | .waiting question, answer :: later =>
    answer = said net dest question ∧ Hears net dest (question.answered answer) later
  | _, answers => answers = []

def Progress.ofResult : Except SystemError Bytes → Progress
  | .error e => .failed e
  | .ok bytes => .opened bytes

theorem follow_exact (net : Network) (dest : Authority) (progress : Progress) :
    ∃ answers, Hears net dest progress answers ∧
      reached progress answers = .ofResult (DialReport.follow net dest progress).result ∧
      (trace dest progress answers).lookups = (DialReport.follow net dest progress).lookups ∧
      (trace dest progress answers).attempts = (DialReport.follow net dest progress).attempts := by
  fun_induction DialReport.follow net dest progress with
  | case1 e => exact ⟨[], rfl, rfl, rfl, rfl⟩
  | case2 bytes => exact ⟨[], rfl, rfl, rfl, rfl⟩
  | case3 report ih =>
    obtain ⟨answers, hears, ended, lookups, attempts⟩ := ih
    exact ⟨.ofName (net.lookup dest.host) :: answers, ⟨rfl, hears⟩, ended,
      congrArg (dest.host :: ·) lookups, attempts⟩
  | case4 ip others address report ih =>
    obtain ⟨answers, hears, ended, lookups, attempts⟩ := ih
    exact ⟨.ofAddress (net.connect address) :: answers, ⟨rfl, hears⟩, ended, lookups,
      congrArg (address :: ·) attempts⟩

def Progress.ips : Progress → List IpAddress
  | .waiting (.trying ip others) => ip :: others
  | .waiting .lookingUp | .failed _ | .opened _ => []

def Named (answers : List Answer) (ip : IpAddress) : Prop :=
  ∃ ips, .ofName (.ok ips) ∈ answers ∧ ip ∈ ips

theorem next_ips (ips : List IpAddress) (last : SystemError) : (next ips last).ips = ips := by
  cases ips <;> rfl

theorem answered_ips {question : Dial} (member : ip ∈ (question.answered answer).ips) :
    ip ∈ (Progress.waiting question).ips ∨ Named [answer] ip := by
  cases question with
  | lookingUp =>
    rcases answer with (e | ips) | answer
    · cases member
    · simp only [answered, lookedUp, next_ips] at member
      exact .inr ⟨ips, List.mem_singleton.2 rfl, member⟩
    · cases member
  | trying tried others =>
    rcases answer with answer | (e | bytes)
    · exact .inl member
    · simp only [answered, Dial.tried, next_ips] at member
      exact .inl (List.mem_cons_of_mem tried member)
    · cases member

theorem Named.cons (named : Named answers ip) (first : Answer) : Named (first :: answers) ip := by
  obtain ⟨ips, told, member⟩ := named
  exact ⟨ips, List.mem_cons_of_mem first told, member⟩

theorem start_ips {host : Text} (member : ip ∈ (start host).ips) :
    IpAddress.ofText? host = some ip := by
  unfold start at member
  split at member
  · rename_i literal
    cases List.mem_singleton.1 member
    exact literal
  · split at member <;> cases member

-- What a dial does for `dest`, and to nobody else.
def Serves (dest : Authority) (progress : Progress) (answers : List Answer) : Occurrence → Prop
  | .lookup host => host = dest.host
  | .attempt address =>
    address.port = dest.port ∧ (address.ip ∈ progress.ips ∨ Named answers address.ip)
  | .opened => True
  | _ => False

theorem asked_serves (dest : Authority) (question : Dial) (answers : List Answer) :
    Serves dest (.waiting question) answers (question.asked dest) := by
  cases question with
  | lookingUp => rfl
  | trying ip others => exact ⟨rfl, .inl (List.mem_cons_self ..)⟩

theorem Serves.waiting {question : Dial}
    (serves : Serves dest (question.answered answer) answers o) :
    Serves dest (.waiting question) (answer :: answers) o := by
  cases o with
  | attempt address =>
    obtain ⟨port, from_⟩ := serves
    refine ⟨port, ?_⟩
    rcases from_ with member | named
    · rcases answered_ips member with member | ⟨ips, told, member⟩
      · exact .inl member
      · refine .inr ⟨ips, ?_, member⟩
        rw [List.mem_singleton.1 told]
        exact List.mem_cons_self ..
    · exact .inr (named.cons answer)
  | _ => exact serves

theorem trace_serves {dest : Authority} {progress : Progress} {answers : List Answer}
    (member : o ∈ trace dest progress answers) : Serves dest progress answers o := by
  induction answers generalizing progress with
  | nil =>
    rw [trace_nil] at member
    cases progress with
    | waiting question =>
      cases List.mem_singleton.1 member
      exact asked_serves dest question []
    | failed e => cases member
    | opened bytes =>
      cases List.mem_singleton.1 member
      trivial
  | cons first later ih =>
    cases progress with
    | waiting question =>
      rcases List.mem_cons.1 member with rfl | member
      · exact asked_serves dest question (first :: later)
      · exact (ih member).waiting
    | failed e => simp at member
    | opened bytes =>
      rw [trace_opened] at member
      cases List.mem_singleton.1 member
      trivial

-- What a host comes to: its addresses, or why it has none. Before that stands what has been heard
-- and looked up to know it.
inductive Found (host : Text) :
    List Answer → List Text → Except SystemError (List IpAddress) → Prop where
  | literal (written : IpAddress.ofText? host = some ip) : Found host [] [] (.ok [ip])
  | spoiled (name : IpAddress.ofText? host = none) (nul : '\x00' ∈ host) :
      Found host [] [] (.error .nulInName)
  | named (name : IpAddress.ofText? host = none) (clean : '\x00' ∉ host) :
      Found host [.ofName found] [host] found

def refusals (errors : List SystemError) : List Answer := errors.map fun e => .ofAddress (.error e)

def questions (dest : Authority) (names : List Text) (ips : List IpAddress) : Journal :=
  names.map .lookup ++ ips.map fun ip => .attempt ⟨ip, dest.port⟩

theorem questions_unopened : .opened ∉ questions dest names ips := by simp [questions]

-- How a dial goes on from what it has heard, what it has done and where that has led. It turns to
-- one address after the other; each that it has left behind has refused with an error of its own.
inductive Way (dest : Authority) : List Answer → Journal → Progress → Prop where
  | asks (name : IpAddress.ofText? dest.host = none) (clean : '\x00' ∉ dest.host) :
      Way dest [] (questions dest [dest.host] []) (.waiting .lookingUp)
  | unfound (found : Found dest.host heard names (.error e)) :
      Way dest heard (questions dest names []) (.failed e)
  | tries (found : Found dest.host heard names (.ok (before ++ ip :: others)))
      (each : errors.length = before.length) :
      Way dest (heard ++ refusals errors) (questions dest names (before ++ [ip]))
        (.waiting (.trying ip others))
  | connects (found : Found dest.host heard names (.ok (before ++ ip :: others)))
      (each : errors.length = before.length) :
      Way dest (heard ++ refusals errors ++ [.ofAddress (.ok greeting)])
        (questions dest names (before ++ [ip]) ++ [.opened]) (.opened greeting)
  | exhausted (found : Found dest.host heard names (.ok ips)) (each : errors.length = ips.length) :
      Way dest (heard ++ refusals errors) (questions dest names ips)
        (.failed (errors.getLastD .noAddress))

inductive Answers : Dial → Answer → Prop where
  | name : Answers .lookingUp (.ofName answer)
  | address : Answers (.trying ip others) (.ofAddress answer)

namespace Way

variable {dest : Authority}

theorem next (errors : List SystemError)
    (found : Found dest.host heard names (.ok (before ++ others)))
    (each : errors.length = before.length) :
    let progress := Dial.next others (errors.getLastD .noAddress)
    Way dest (heard ++ refusals errors) (questions dest names before ++ progress.asked dest)
      progress := by
  cases others with
  | nil =>
    rw [List.append_nil] at found
    simpa [Dial.next] using Way.exhausted found each
  | cons ip others =>
    simpa [Dial.next, questions, Dial.asked] using Way.tries found each

theorem start (dest : Authority) :
    Way dest [] ((Dial.start dest.host).asked dest) (Dial.start dest.host) := by
  cases written : IpAddress.ofText? dest.host with
  | some ip =>
    have found : Found dest.host [] [] (.ok ([] ++ [ip])) := .literal written
    have way := next [] found rfl
    simpa [Dial.start, Dial.next, refusals, questions, written] using way
  | none =>
    by_cases nul : '\x00' ∈ dest.host
    · have way := Way.unfound (.spoiled written nul)
      simpa [Dial.start, questions, written, nul] using way
    · have way := Way.asks written nul
      simpa [Dial.start, written, nul, questions, Dial.asked] using way

theorem step (way : Way dest answers j (.waiting question)) (fits : Answers question answer) :
    Way dest (answers ++ [answer]) (j ++ (question.answered answer).asked dest)
      (question.answered answer) := by
  cases way with
  | asks name clean =>
    cases fits with
    | name =>
      rename_i answer
      cases answer with
      | error e =>
        have found : Found dest.host [.ofName (.error e)] [dest.host] (.error e) :=
          .named name clean
        have way := Way.unfound found
        simpa [Dial.answered, Dial.lookedUp] using way
      | ok ips =>
        have found : Found dest.host [.ofName (.ok ips)] [dest.host] (.ok ([] ++ ips)) :=
          .named name clean
        exact next [] found rfl
  | tries found each =>
    rename_i heard names before ip others errors
    cases fits with
    | address =>
      rename_i answer
      cases answer with
      | error e =>
        have rest : before ++ ip :: others = before ++ [ip] ++ others := by simp
        rw [rest] at found
        have way := next (errors ++ [e]) found (by simp [each])
        simpa [Dial.answered, Dial.tried, refusals] using way
      | ok greeting => exact .connects found each

theorem opens_once (way : Way dest answers j (.opened greeting)) : j.count .opened = 1 := by
  cases way with
  | connects => simp [List.count_append, List.count_eq_zero.2 questions_unopened]

theorem unopened (way : Way dest answers j progress) (closed : ∀ bytes, progress ≠ .opened bytes) :
    .opened ∉ j := by
  cases way with
  | connects => exact absurd rfl (closed _)
  | _ => exact questions_unopened

end Way

def Goes (dest : Authority) (told : List Answer) : Prop :=
  Way dest told (trace dest (start dest.host) told) (reached (start dest.host) told)

theorem Goes.nil (dest : Authority) : Goes dest [] := by
  rw [Goes, trace_nil, reached_nil]
  exact .start dest

theorem Goes.snoc {dest : Authority} (goes : Goes dest told)
    (waiting : reached (Dial.start dest.host) told = .waiting question)
    (fits : Answers question answer) : Goes dest (told ++ [answer]) := by
  rw [Goes, waiting] at goes
  rw [Goes, trace_snoc waiting, reached_snoc waiting]
  exact goes.step fits

end GatedProxy.Dial
