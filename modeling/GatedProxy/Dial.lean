import GatedProxy.Address
import GatedProxy.Request
import GatedProxy.SystemError

namespace GatedProxy

-- Opening the upstream connection of a session: the question that is out, to the name service or
-- to one address after another.
inductive Dial where
  | lookingUp
  | trying (ip : IpAddress) (others : List IpAddress)
  deriving DecidableEq, Repr

namespace Dial

inductive Progress where
  | waiting (d : Dial)
  | failed (e : SystemError)
  | opened (waiting : Bytes)
  deriving DecidableEq, Repr

def next (ips : List IpAddress) (last : SystemError) : Progress :=
  match ips with
  | [] => .failed last
  | ip :: others => .waiting (.trying ip others)

def start (host : Text) : Progress :=
  match IpAddress.ofText? host with
  | some ip => .waiting (.trying ip [])
  | none => if host.contains '\x00' then .failed .nulInName else .waiting .lookingUp

def lookedUp : Except SystemError (List IpAddress) → Progress
  | .error e => .failed e
  | .ok ips => next ips .noAddress

def tried (others : List IpAddress) : Except SystemError Bytes → Progress
  | .error e => next others e
  | .ok waiting => .opened waiting

end Dial

-- What names and addresses answer. A name that is not listed is unknown; an address that is not
-- listed refuses.
structure Network where
  hosts : List (Text × List IpAddress) := []
  upstreams : List (SocketAddress × Except SystemError Bytes) := []

namespace Network

def lookup (net : Network) (host : Text) : Except SystemError (List IpAddress) :=
  match net.hosts.lookup host with
  | some ips => .ok ips
  | none => .error .lookupFailed

def connect (net : Network) (address : SocketAddress) : Except SystemError Bytes :=
  (net.upstreams.lookup address).getD (.error .refused)

end Network

def Dial.Progress.depth : Dial.Progress → Nat × Nat
  | .waiting .lookingUp => (1, 0)
  | .waiting (.trying _ others) => (0, others.length + 1)
  | .failed _ | .opened _ => (0, 0)

theorem Dial.depth_lookedUp (answer : Except SystemError (List IpAddress)) :
    Prod.Lex (· < ·) (· < ·) (lookedUp answer).depth (Progress.waiting .lookingUp).depth := by
  have less : (lookedUp answer).depth.1 < 1 := by
    cases answer with
    | error e => exact Nat.one_pos
    | ok ips => cases ips <;> exact Nat.one_pos
  exact Prod.lex_def.2 (.inl less)

theorem Dial.depth_tried (ip : IpAddress) (others : List IpAddress)
    (answer : Except SystemError Bytes) :
    Prod.Lex (· < ·) (· < ·) (tried others answer).depth
      (Progress.waiting (.trying ip others)).depth := by
  cases answer with
  | ok waiting => exact Prod.lex_def.2 (.inr ⟨rfl, Nat.succ_pos _⟩)
  | error e =>
    cases others with
    | nil => exact Prod.lex_def.2 (.inr ⟨rfl, Nat.succ_pos _⟩)
    | cons ip others => exact Prod.lex_def.2 (.inr ⟨rfl, Nat.lt_succ_self _⟩)

structure DialReport where
  lookups : List Text := []
  attempts : List SocketAddress := []
  result : Except SystemError Bytes
  deriving DecidableEq

namespace DialReport

def follow (net : Network) (dest : Authority) : Dial.Progress → DialReport
  | .failed e => { result := .error e }
  | .opened waiting => { result := .ok waiting }
  | .waiting .lookingUp =>
    let later := follow net dest (Dial.lookedUp (net.lookup dest.host))
    { later with lookups := dest.host :: later.lookups }
  | .waiting (.trying ip others) =>
    let address : SocketAddress := ⟨ip, dest.port⟩
    let later := follow net dest (Dial.tried others (net.connect address))
    { later with attempts := address :: later.attempts }
termination_by progress => progress.depth
decreasing_by
  · exact Dial.depth_lookedUp _
  · exact Dial.depth_tried ip others _

def ofTarget (net : Network) (dest : Authority) : DialReport := follow net dest (Dial.start dest.host)

end DialReport

end GatedProxy
