import GatedProxy.Address
import GatedProxy.Session.Outcome

namespace GatedProxy

inductive Level where
  | error
  | warn
  | info
  | debug
  | trace
  deriving DecidableEq, Repr

def Level.name : Level → String
  | .error => "ERROR"
  | .warn => "WARN"
  | .info => "INFO"
  | .debug => "DEBUG"
  | .trace => "TRACE"

def Level.verbosity : Level → Nat
  | .error => 1
  | .warn => 2
  | .info => 3
  | .debug => 4
  | .trace => 5

inductive LogEvent where
  | authenticated (user line : Text) (headers : Nat)
  | forwarding (target : Target) (version : Option Text)
  | established (dest : Authority)
  | shutdownFailed (d : Direction) (e : SystemError)
  | tunnelClosed (dest : Authority) (summary : TunnelSummary)
  | relayed (dest : Authority) (size : Nat)
  | connected (peer : SocketAddress) (id : Text)
  | ended (peer : SocketAddress) (id : Text) (result : SessionResult)
  | acceptFailed (e : SystemError)
  | stopping
  | waiting (active : UInt64)
  | status (active : UInt64) (totals : Counts)
  | listening (on : SocketAddress)
  | configured (users : List Text)
  | signalled
  | leaving
  deriving DecidableEq

namespace LogEvent

def directionName : Direction → String
  | .up => "Up"
  | .down => "Down"

def challengeName : Challenge → String
  | .required => "Required"
  | .invalidCredentials => "InvalidCredentials"

def traffic (c : Counts) : String := toString c.up ++ "↑ " ++ toString c.down ++ "↓ bytes"

-- The end of a session makes one report or none: a tunnel that met end-of-file has been reported.
def endReport (peer id : String) : SessionResult → Option (Level × String)
  | .ok .closed => some (.debug, "Session " ++ id ++ " closed before sending a request")
  | .ok (.rejected why) =>
    some (.warn, "Session " ++ id ++ " from " ++ peer ++ " rejected: " ++ challengeName why)
  | .ok .badRequest =>
    some (.warn, "Session " ++ id ++ " from " ++ peer ++ " sent an unsupported target")
  | .ok (.relayed size) =>
    some (.debug, "Session " ++ id ++ " relayed " ++ toString size ++ " bytes")
  | .ok (.tunneled summary) =>
    summary.error.map fun e =>
      (.debug, "Session " ++ id ++ " tunnel ended with error: " ++ e.message)
  | .error e =>
    some (.warn,
      "Error handling client " ++ peer ++ " (session " ++ id ++ "): " ++ e.message)

def report? : LogEvent → Option (Level × String)
  | .authenticated user line headers =>
    some (.debug, "Authenticated " ++ String.ofList user ++ " for " ++
      String.ofList (Text.quoted line) ++ " (" ++ toString headers ++ " header lines)")
  | .forwarding target version =>
    let version := (version.map String.ofList).getD "no version"
    some (.debug, "Forwarding " ++ String.ofList target.toText ++ " (" ++ version ++ ")")
  | .established dest => some (.info, "Tunnel established to " ++ String.ofList dest.toText)
  | .shutdownFailed d e =>
    some (.debug, directionName d ++ " shutdown error: " ++ e.message)
  | .tunnelClosed dest summary =>
    some (.debug, "Tunnel to " ++ String.ofList dest.toText ++ " closed by " ++
      directionName summary.closedBy ++ ": " ++ traffic summary.counts)
  | .relayed dest size =>
    some (.debug, "Relayed " ++ toString size ++ " bytes from " ++ String.ofList dest.toText)
  | .connected peer id =>
    some (.info, "Connection from " ++ String.ofList peer.toText ++
      " (session " ++ String.ofList id ++ ")")
  | .ended peer id result => endReport (String.ofList peer.toText) (String.ofList id) result
  | .acceptFailed e => some (.warn, "Accept error: " ++ e.message ++ " (continuing)")
  | .stopping => some (.info, "No longer accepting connections")
  | .waiting active =>
    some (.info, "Waiting for " ++ toString active ++ " in-flight session(s) to close...")
  | .status active totals =>
    some (.info, "Status - active sessions: " ++ toString active ++ ", tunneled " ++
      traffic totals ++ " total")
  | .listening on => some (.info, "Pre-auth proxy listening on " ++ String.ofList on.toText)
  | .configured users =>
    some (.info, toString users.length ++ " credential(s) configured: " ++
      ", ".intercalate (users.map String.ofList))
  | .signalled => some (.info, "Shutdown signal received")
  | .leaving => some (.info, "Shutting down proxy")

def withId (id : Text) : LogEvent → LogEvent
  | .connected peer _ => .connected peer id
  | .ended peer _ result => .ended peer id result
  | event => event

end LogEvent

end GatedProxy
