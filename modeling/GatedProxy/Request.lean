import GatedProxy.Text.Basic
import GatedProxy.Text.Quoted

namespace GatedProxy

inductive RequestError where
  | empty
  | encoding
  | line (text : Text)
  | target (text : Text)
  deriving DecidableEq, Repr

-- What the client wrote is shown quoted, so it cannot start a line of its own in a log.
def RequestError.message : RequestError → String
  | .empty => "empty request"
  | .encoding => "request is not valid UTF-8"
  | .line text => "malformed request line: " ++ String.ofList (Text.quoted text)
  | .target text => "malformed target: " ++ String.ofList (Text.quoted text)

structure RequestLine where
  method : Text
  target : Text
  version : Option Text := none
  deriving DecidableEq, Repr

namespace RequestLine

def parse (line : Text) : Except RequestError RequestLine :=
  match Text.words line with
  | method :: target :: rest => .ok { method, target, version := rest.head? }
  | _ => .error (.line line)

def connectMethod : Text := "CONNECT".toList

def isConnect (l : RequestLine) : Bool := l.method = connectMethod

end RequestLine

structure Authority where
  host : Text
  port : UInt16
  deriving DecidableEq, Repr

namespace Authority

def port? (t : Text) : Option UInt16 :=
  match Text.unsigned 65535 t with
  | .ok n => some (UInt16.ofNat n)
  | .error _ => none

def unbracket (host : Text) : Text :=
  match (Text.after? ['['] host).bind (Text.before? [']']) with
  | some inner => inner
  | none => host

def split? (t : Text) : Option Authority := do
  let (host, port) ← Text.splitLast ':' t
  let port ← port? port
  let host := unbracket host
  if host.isEmpty then none else some { host, port }

def toText (a : Authority) : Text := a.host ++ ':' :: Text.decimal a.port.toNat

end Authority

inductive Target where
  | tunnel (dest : Authority)
  | http (dest : Authority)
  | unsupported
  deriving DecidableEq, Repr

namespace Target

def scheme : Text := "http://".toList

def defaultPort : UInt16 := 80

def resolve (l : RequestLine) : Except RequestError Target :=
  if l.isConnect then
    match Authority.split? l.target with
    | some dest => .ok (.tunnel dest)
    | none => .error (.target l.target)
  else
    match Text.after? scheme l.target with
    | none => .ok .unsupported
    | some rest =>
      let authority := (Text.pieces '/' rest).1
      if authority.isEmpty then .error (.target l.target)
      else
        let whole : Authority := { host := authority, port := defaultPort }
        .ok (.http ((Authority.split? authority).getD whole))

def toText : Target → Text
  | .tunnel dest => RequestLine.connectMethod ++ ' ' :: dest.toText
  | .http dest => "http ".toList ++ dest.toText
  | .unsupported => "unsupported".toList

end Target

-- What one read of the client gave. The bytes are kept as they came, for an upstream that gets
-- them again; the lines are the same bytes read as text.
structure Request where
  raw : Bytes
  line : Text
  others : List Text
  deriving DecidableEq, Repr

namespace Request

def parse (raw : Bytes) : Except RequestError Request :=
  if raw.isEmpty then .error .empty
  else
    match Text.ofUtf8? raw with
    | none => .error .encoding
    | some text =>
      let (line, others) := Text.crlfLines text
      .ok { raw, line, others }

def headers (r : Request) : List Text := r.others.takeWhile fun line => !line.isEmpty

def authorizationName : Text := "proxy-authorization:".toList

def authorizationOn? (line : Text) : Option Text := do
  let value ← Text.afterAnyCase? authorizationName line
  let value := Text.trim value
  if value.isEmpty then none else some value

-- The search goes on past the header block, and it leaves out the request line.
def authorization? (r : Request) : Option Text := r.others.findSome? authorizationOn?

end Request

end GatedProxy
