import GatedProxy.Request
import GatedProxy.Response
import GatedProxy.SystemError
import GatedProxy.Traffic

namespace GatedProxy

-- What a copy loop ends on before it has met end-of-file: an error of the system, or that there was
-- no buffer for it to copy through.
inductive CopyError where
  | system (e : SystemError)
  | unheld
  deriving DecidableEq, Repr

-- The runtime puts a number of its own behind the word `task`; it is left out.
def CopyError.message : CopyError → String
  | .system e => e.message
  | .unheld => "task panicked with message \"capacity overflow\""

structure TunnelSummary where
  counts : Counts
  closedBy : Direction
  error : Option CopyError
  deriving DecidableEq, Repr

inductive Outcome where
  | closed
  | rejected (why : Challenge)
  | badRequest
  | relayed (size : Nat)
  | tunneled (summary : TunnelSummary)
  deriving DecidableEq, Repr

inductive SessionError where
  | malformed (e : RequestError)
  | dial (dest : Authority) (e : SystemError)
  | io (e : SystemError)
  deriving DecidableEq, Repr

def SessionError.worded (say : SystemError → String) : SessionError → String
  | .malformed e => "malformed request: " ++ e.message
  | .dial dest e => "upstream connection to " ++ String.ofList dest.toText ++ " failed: " ++ say e
  | .io e => "socket error: " ++ say e

def SessionError.message : SessionError → String := SessionError.worded SystemError.message

abbrev SessionResult := Except SessionError Outcome

end GatedProxy
