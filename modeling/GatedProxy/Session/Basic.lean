import GatedProxy.Credential
import GatedProxy.Dial
import GatedProxy.Request
import GatedProxy.Session.Occurrence
import GatedProxy.Settings
import GatedProxy.Tunnel.Basic

namespace GatedProxy

structure Policy where
  credentials : CredentialTable
  limits : Limits := {}
  deriving DecidableEq, Repr

def Settings.policy (s : Settings) : Policy := { credentials := s.credentials, limits := s.limits }

inductive Errand where
  | tunnel
  | relay (request : Bytes)
  deriving DecidableEq, Repr

-- What is done about a request. It rests on the one read of the client and on nothing else.
inductive Judgement where
  | fail (e : RequestError)
  | answer (response : String) (outcome : Outcome)
  | dial (dest : Authority) (errand : Errand)
  deriving DecidableEq, Repr

namespace Policy

def judgeTarget (r : Request) : Target → Judgement
  | .tunnel dest => .dial dest .tunnel
  | .http dest => .dial dest (.relay r.raw)
  | .unsupported => .answer Response.badRequest .badRequest

-- The request line of a client that may not pass is not even looked at.
def judgeRequest (p : Policy) (r : Request) : Judgement × List LogEvent :=
  match p.credentials.judge r.authorization? with
  | .missing => (.answer (Response.challenge .required) (.rejected .required), [])
  | .invalid =>
    (.answer (Response.challenge .invalidCredentials) (.rejected .invalidCredentials), [])
  | .accepted user =>
    let authenticated := LogEvent.authenticated user r.line r.headers.length
    match RequestLine.parse r.line with
    | .error e => (.fail e, [authenticated])
    | .ok line =>
      match Target.resolve line with
      | .error e => (.fail e, [authenticated])
      | .ok target => (judgeTarget r target, [authenticated, .forwarding target line.version])

def judge (p : Policy) (raw : Bytes) : Judgement × List LogEvent :=
  match Request.parse raw with
  | .error e => (.fail e, [])
  | .ok r => p.judgeRequest r

end Policy

inductive Exchange where
  | establishing (left : Bytes)
  | tunneling (t : Tunnel)
  | sendingRequest (left : Bytes)
  | awaitingReply
  | sendingReply (size : Nat) (left : Bytes)
  deriving DecidableEq, Repr

-- `left` is what the pending write still has to write. A session that is over without a result
-- broke down, because there was no buffer for it to read into.
inductive Phase where
  | awaitingRequest
  | answering (left : Bytes) (outcome : Outcome)
  | dialing (dest : Authority) (errand : Errand) (question : Dial)
  | joined (upstream : Connection) (dest : Authority) (exchange : Exchange)
  | over (upstream : Option Connection) (result : Option SessionResult)
  deriving DecidableEq

structure Session where
  client : Connection := {}
  phase : Phase := .awaitingRequest
  deriving DecidableEq

namespace Session

-- Order between the far ends, the network and the copy loops is in the actions: a run of a
-- session is any list of actions that are each possible when their turn comes.
inductive Action where
  | far (who : End) (event : FarEvent)
  | read
  | write (size : Nat)
  | resolved (answer : Except SystemError (List IpAddress))
  | dialed (answer : Except SystemError Bytes)
  | tunnel (a : Tunnel.Action)
  | conclude
  deriving DecidableEq

def upstream? (s : Session) : Option Connection :=
  match s.phase with
  | .joined upstream _ _ => some upstream
  | .over upstream _ => upstream
  | .awaitingRequest | .answering .. | .dialing .. => none

def setUpstream (s : Session) (c : Connection) : Session :=
  match s.phase with
  | .joined _ dest exchange => { s with phase := .joined c dest exchange }
  | .over (some _) result => { s with phase := .over (some c) result }
  | .over none _ | .awaitingRequest | .answering .. | .dialing .. => s

def result? (s : Session) : Option SessionResult :=
  match s.phase with
  | .over _ result => result
  | _ => none

def isOver (s : Session) : Bool :=
  match s.phase with
  | .over _ _ => true
  | _ => false

def letGo (who : End) (c : Connection) : Connection × Journal :=
  (c.drop, (if c.endsAt c.drop then [.ended who] else []) ++ [.dropped who])

def shutQuietly (who : End) (c : Connection) : Connection × Journal :=
  match c.shutdown with
  | .ok closed => (closed, if c.endsAt closed then [.ended who] else [])
  | .error _ => (c, [])

def endWith (client : Connection) (upstream : Option Connection) (result : Option SessionResult) :
    Session × Journal :=
  let (client, ofClient) := letGo .client client
  let returned := result.toList.map Occurrence.returned
  match upstream with
  | none => ({ client, phase := .over none result }, ofClient ++ returned)
  | some upstream =>
    let (upstream, ofUpstream) := letGo .upstream upstream
    ({ client, phase := .over (some upstream) result }, ofUpstream ++ ofClient ++ returned)

def finish (client : Connection) (upstream : Option Connection) (result : SessionResult) :
    Session × Journal :=
  endWith client upstream (some result)

def breakDown (client : Connection) (upstream : Option Connection) : Session × Journal :=
  endWith client upstream none

def after (earlier : Journal) (now : Session × Journal) : Session × Journal :=
  (now.1, earlier ++ now.2)

def far (s : Session) (who : End) (event : FarEvent) : Option (Session × Journal) :=
  let taken (c : Connection) : Journal :=
    match event with
    | .send data => if c.listens then [.arrived who data] else []
    | .finish | .close | .fault _ _ => []
  match who with
  | .client => some ({ s with client := s.client.far event }, taken s.client)
  | .upstream => s.upstream?.map fun c => (s.setUpstream (c.far event), taken c)

def dialTo (client : Connection) (dest : Authority) (errand : Errand) :
    Dial.Progress → Session × Journal
  | .failed e => finish client none (.error (.dial dest e))
  | .waiting question =>
    let asked : Occurrence := match question with
      | .lookingUp => .lookup dest.host
      | .trying ip _ => .attempt ⟨ip, dest.port⟩
    ({ client, phase := .dialing dest errand question }, [asked])
  | .opened waiting =>
    let exchange := match errand with
      | .tunnel => .establishing (Response.bytes Response.established)
      | .relay request => .sendingRequest request
    ({ client, phase := .joined { unread := waiting } dest exchange },
      [.opened, .arrived .upstream waiting])

def receive (p : Policy) (client : Connection) (raw : Bytes) : Session × Journal :=
  if raw.isEmpty then finish client none (.ok .closed)
  else
    let (judgement, events) := p.judge raw
    after (events.map .log) <|
      match judgement with
      | .fail e => finish client none (.error (.malformed e))
      | .answer response outcome =>
        ({ client, phase := .answering (Response.bytes response) outcome }, [])
      | .dial dest errand => dialTo client dest errand (Dial.start dest.host)

def relayed (client upstream : Connection) (dest : Authority) (size : Nat) : Session × Journal :=
  let (upstream, ofUpstream) := shutQuietly .upstream upstream
  let (client, ofClient) := shutQuietly .client client
  after (.log (.relayed dest size) :: ofUpstream ++ ofClient) <|
    finish client (some upstream) (.ok (.relayed size))

-- The buffer is made before the read waits.
def read (p : Policy) (s : Session) : Option (Session × Journal) :=
  match s.phase with
  | .awaitingRequest =>
    if Limits.largest < p.limits.request then some (breakDown s.client none)
    else
      (s.client.read p.limits.request).map fun
        | (.error e, client) => finish client none (.error (.io e))
        | (.ok raw, client) => after [.read .client raw] (receive p client raw)
  | .joined upstream dest .awaitingReply =>
    if Limits.largest < p.limits.reply then some (breakDown s.client (some upstream))
    else
      (upstream.read p.limits.reply).map fun
        | (.error e, upstream) => finish s.client (some upstream) (.error (.io e))
        | (.ok data, upstream) =>
          ({ s with phase := .joined upstream dest (.sendingReply data.length data) },
            [.read .upstream data])
  | _ => none

-- What follows when everything is written. A write of nothing does not reach the connection.
def written (s : Session) : Option (Session × Journal) :=
  match s.phase with
  | .answering _ outcome =>
    let (client, ofClient) := shutQuietly .client s.client
    some (after ofClient (finish client none (.ok outcome)))
  | .joined upstream dest (.establishing _) =>
    some ({ s with phase := .joined upstream dest (.tunneling {}) }, [.log (.established dest)])
  | .joined upstream dest (.sendingRequest _) =>
    some ({ s with phase := .joined upstream dest .awaitingReply }, [])
  | .joined upstream dest (.sendingReply size _) => some (relayed s.client upstream dest size)
  | _ => none

def pending? (s : Session) : Option (End × Connection × Bytes) :=
  match s.phase with
  | .answering left _ => some (.client, s.client, left)
  | .joined _ _ (.establishing left) => some (.client, s.client, left)
  | .joined upstream _ (.sendingRequest left) => some (.upstream, upstream, left)
  | .joined _ _ (.sendingReply _ left) => some (.client, s.client, left)
  | _ => none

def setPending (s : Session) (left : Bytes) : Session :=
  match s.phase with
  | .answering _ outcome => { s with phase := .answering left outcome }
  | .joined upstream dest (.establishing _) =>
    { s with phase := .joined upstream dest (.establishing left) }
  | .joined upstream dest (.sendingRequest _) =>
    { s with phase := .joined upstream dest (.sendingRequest left) }
  | .joined upstream dest (.sendingReply size _) =>
    { s with phase := .joined upstream dest (.sendingReply size left) }
  | _ => s

def write (s : Session) (size : Nat) : Option (Session × Journal) :=
  match s.pending? with
  | none => none
  | some (_, _, []) => s.written
  | some (who, c, left) =>
    (c.write left size).map fun
      | .error e => finish s.client s.upstream? (.error (.io e))
      | .ok (accepted, left) => (s.setPending left, [.wrote who accepted])

def tunnel (p : Policy) (s : Session) (a : Tunnel.Action) : Option (Session × Journal) :=
  match s.phase with
  | .joined upstream dest (.tunneling t) =>
    (t.act p.limits.tunnel ⟨s.client, upstream⟩ a).map fun (t, ends, journal) =>
      ({ client := ends.client, phase := .joined ends.upstream dest (.tunneling t) }, journal)
  | _ => none

def conclude (s : Session) : Option (Session × Journal) :=
  match s.phase with
  | .joined upstream dest (.tunneling t) =>
    t.summary?.map fun summary =>
      after [.log (.tunnelClosed dest summary)]
        (finish s.client (some upstream) (.ok (.tunneled summary)))
  | _ => none

def act (p : Policy) (s : Session) : Action → Option (Session × Journal)
  | .far who event => s.far who event
  | .read => s.read p
  | .write size => s.write size
  | .resolved answer =>
    match s.phase with
    | .dialing dest errand .lookingUp => some (dialTo s.client dest errand (Dial.lookedUp answer))
    | _ => none
  | .dialed answer =>
    match s.phase with
    | .dialing dest errand (.trying _ others) =>
      some (dialTo s.client dest errand (Dial.tried others answer))
    | _ => none
  | .tunnel a => s.tunnel p a
  | .conclude => s.conclude

def run (p : Policy) (s : Session) : List Action → Option (Session × Journal)
  | [] => some (s, [])
  | a :: rest => do
    let (s, journal) ← s.act p a
    let (s, later) ← s.run p rest
    some (s, journal ++ later)

end Session

end GatedProxy
