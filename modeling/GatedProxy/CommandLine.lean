import GatedProxy.Address
import GatedProxy.Settings
import GatedProxy.Text.Basic
import GatedProxy.Text.Plain

namespace GatedProxy

namespace CommandLine

inductive Opt where
  | listenIp
  | port
  | credentials
  | requestBuffer
  | replyBuffer
  | tunnelBuffer
  | statusInterval
  deriving DecidableEq, Repr

namespace Opt

def all : List Opt :=
  [.listenIp, .port, .credentials, .requestBuffer, .replyBuffer, .tunnelBuffer, .statusInterval]

def long : Opt → String
  | .listenIp => "--listen-ip"
  | .port => "--port"
  | .credentials => "--credentials"
  | .requestBuffer => "--request-buffer"
  | .replyBuffer => "--reply-buffer"
  | .tunnelBuffer => "--tunnel-buffer"
  | .statusInterval => "--status-interval"

def short? : Opt → Option Char
  | .port => some 'p'
  | _ => none

def valueName : Opt → String
  | .listenIp => "LISTEN_IP"
  | .port => "PORT"
  | .credentials => "USER:PASS"
  | .requestBuffer => "REQUEST_BUFFER"
  | .replyBuffer => "REPLY_BUFFER"
  | .tunnelBuffer => "TUNNEL_BUFFER"
  | .statusInterval => "STATUS_INTERVAL"

def display (o : Opt) : String := o.long ++ " <" ++ o.valueName ++ ">"

def about : Opt → String
  | .listenIp => "IP address to listen on"
  | .port => "Port to listen on"
  | .credentials => "Accepted credentials, comma-separated \"user:pass\" pairs"
  | .requestBuffer => "Bytes taken from the client in the single request read"
  | .replyBuffer => "Bytes taken from the upstream in the single reply read (plain HTTP)"
  | .tunnelBuffer => "Per-direction copy buffer for CONNECT tunnels"
  | .statusInterval => "Interval seconds between status log lines (0 disables)"

def default? : Opt → Option String
  | .listenIp => some "0.0.0.0"
  | .port => some "8091"
  | .credentials => none
  | .requestBuffer | .replyBuffer | .tunnelBuffer => some "4096"
  | .statusInterval => some "300"

end Opt

inductive Notice where
  | help
  | version
  deriving DecidableEq, Repr

namespace Notice

def long : Notice → String
  | .help => "--help"
  | .version => "--version"

def short : Notice → Char
  | .help => 'h'
  | .version => 'V'

end Notice

inductive Name where
  | opt (o : Opt)
  | notice (n : Notice)
  deriving DecidableEq, Repr

def ofLong? (name : Text) : Option Name :=
  match Opt.all.find? fun o => o.long.toList = name with
  | some o => some (.opt o)
  | none => ([Notice.help, .version].find? fun n => n.long.toList = name).map .notice

def ofShort? (c : Char) : Option Name :=
  match Opt.all.find? fun o => o.short? = some c with
  | some o => some (.opt o)
  | none => ([Notice.help, .version].find? fun n => n.short = c).map .notice

def version : String := "preauth-proxy 0.1.0\n"

def summary : String := "Forward HTTP proxy gated by HTTP Basic credentials"

def description : List String := [
  "preauth-proxy answers every request without valid Proxy-Authorization with a 407.",
  "",
  "Authenticated CONNECT requests are tunneled; authenticated http:// requests are",
  "forwarded once and the first reply buffer is relayed back.",
  "",
  "With no flags it listens on 0.0.0.0:8091 and accepts enterpriseuser:enterprise123.",
  ""]

def shortColumn : Option Char → String
  | some c => "  -" ++ c.toString ++ ", "
  | none => "      "

def indent : String := "          "

def briefOption (o : Opt) : List String := [
  shortColumn o.short? ++ o.display,
  indent ++ o.about ++
    match o.default? with
    | some d => " [default: " ++ d ++ "]"
    | none => ""]

def fullOption (o : Opt) : List String :=
  [shortColumn o.short? ++ o.display, indent ++ o.about] ++
    match o.default? with
    | some d => [indent, indent ++ "[default: " ++ d ++ "]", ""]
    | none => [""]

def notice (n : Notice) (about : String) : List String :=
  [shortColumn (some n.short) ++ n.long, indent ++ about]

def usage : List String := ["Usage: preauth-proxy [OPTIONS]", "", "Options:"]

def briefHelp : List String :=
  [summary, ""] ++ usage ++ Opt.all.flatMap briefOption ++
    notice .help "Print help (see more with '--help')" ++ notice .version "Print version"

def fullHelp : List String :=
  description ++ [""] ++ usage ++ Opt.all.flatMap fullOption ++
    notice .help "Print help (see a summary with '-h')" ++ [""] ++ notice .version "Print version"

def page (lines : List String) : String := String.join (lines.map (· ++ "\n"))

end CommandLine

inductive ValueFault where
  | number (fault : Text.NumberFault)
  | notAPort (n : Int)
  | notAnAddress
  deriving DecidableEq, Repr

def ValueFault.reason : ValueFault → String
  | .number fault => fault.reason
  | .notAPort n => toString n ++ " is not in 0..=65535"
  | .notAnAddress => "invalid IP address syntax"

inductive CommandLineError where
  | unexpected (arg : Text)
  | valueMissing (o : CommandLine.Opt)
  | invalidValue (o : CommandLine.Opt) (value : Text) (fault : ValueFault)
  | repeated (o : CommandLine.Opt)
  | valueForNotice (n : CommandLine.Notice) (value : Text)
  | help (full : Bool)
  | version
  deriving DecidableEq, Repr

namespace CommandLineError

def firstLine (s : String) : String := String.ofList ((Text.lines s.toList).headD [])

-- A refusal is one line, whatever the argument holds; help and version are whole pages. `plain`
-- takes out of an argument what a terminal would obey.
def written (plain : Text → Text) : CommandLineError → String
  | .unexpected arg => firstLine ("error: unexpected argument " ++ quote arg ++ " found")
  | .valueMissing o =>
    "error: a value is required for '" ++ o.display ++ "' but none was supplied"
  | .invalidValue o value fault =>
    firstLine ("error: invalid value " ++ quote value ++ " for '" ++ o.display ++ "': " ++
      fault.reason)
  | .repeated o => "error: the argument '" ++ o.display ++ "' cannot be used multiple times"
  | .valueForNotice n value =>
    firstLine ("error: unexpected value " ++ quote value ++ " for '" ++ n.long ++
      "' found; no more were expected")
  | .help full => CommandLine.page (if full then CommandLine.fullHelp else CommandLine.briefHelp)
  | .version => CommandLine.version
where
  quote (t : Text) : String := "'" ++ String.ofList (plain t) ++ "'"

def message (e : CommandLineError) : String := e.written Text.plain

def printed (e : CommandLineError) : String := e.written Text.plainStream

end CommandLineError

namespace CommandLine

-- What has been read so far. A value in an argument of its own is kept as it is until the next
-- option is understood or the arguments end: an argument that fits nothing is reported first.
structure Draft where
  listenIp : Option IpAddress := none
  port : Option UInt16 := none
  credentials : Option (List Text) := none
  request : Option Nat := none
  reply : Option Nat := none
  tunnel : Option Nat := none
  statusInterval : Option Nat := none
  pending : Option (Opt × Option Text) := none
  deriving DecidableEq, Repr

namespace Draft

def readAddress (value : Text) : Except ValueFault IpAddress :=
  match IpAddress.ofText? value with
  | some ip => .ok ip
  | none => .error .notAnAddress

-- A port is read as a signed number first, so that its range is what a negative one violates.
def readPort (value : Text) : Except ValueFault UInt16 :=
  match Text.signed64 value with
  | .error fault => .error (.number fault)
  | .ok n => if 0 ≤ n ∧ n ≤ 65535 then .ok (UInt16.ofNat n.toNat) else .error (.notAPort n)

def readSize (value : Text) : Except ValueFault Nat :=
  (Text.unsigned Text.max64 value).mapError .number

def once (o : Opt) (value : Text) (old : Option α) (read : Text → Except ValueFault α)
    (store : α → Draft) : Except CommandLineError Draft :=
  if old.isSome then .error (.repeated o)
  else
    match read value with
    | .ok v => .ok (store v)
    | .error fault => .error (.invalidValue o value fault)

def take (d : Draft) (o : Opt) (value : Text) : Except CommandLineError Draft :=
  match o with
  | .listenIp => once o value d.listenIp readAddress fun v => { d with listenIp := some v }
  | .port => once o value d.port readPort fun v => { d with port := some v }
  | .credentials =>
    let (first, others) := Text.pieces ',' value
    .ok { d with credentials := some (d.credentials.getD [] ++ first :: others) }
  | .requestBuffer => once o value d.request readSize fun v => { d with request := some v }
  | .replyBuffer => once o value d.reply readSize fun v => { d with reply := some v }
  | .tunnelBuffer => once o value d.tunnel readSize fun v => { d with tunnel := some v }
  | .statusInterval =>
    once o value d.statusInterval readSize fun v => { d with statusInterval := some v }

def settle (d : Draft) : Except CommandLineError Draft :=
  match d.pending with
  | none => .ok d
  | some (o, none) => .error (.valueMissing o)
  | some (o, some value) => take { d with pending := none } o value

def option (d : Draft) (o : Opt) (attached : Option Text) : Except CommandLineError Draft := do
  let d ← d.settle
  match attached with
  | some value => d.take o value
  | none => .ok { d with pending := some (o, none) }

def notice (d : Draft) (n : Notice) (full : Bool) : Except CommandLineError Draft := do
  let _ ← d.settle
  .error <|
    match n with
    | .help => .help full
    | .version => .version

def longArgument (d : Draft) (arg : Text) : Except CommandLineError Draft :=
  let (name, attached) := match Text.splitFirst '=' arg with
    | some (name, value) => (name, some value)
    | none => (arg, none)
  match ofLong? name, attached with
  | some (.opt o), _ => d.option o attached
  | some (.notice n), none => d.notice n true
  | some (.notice n), some value => .error (.valueForNotice n value)
  | none, _ => .error (.unexpected name)

-- `-n`, `-nvalue` or `-n=value`. The first letter decides: it takes the rest as its value, ends
-- the reading, or is unknown.
def shortArgument (d : Draft) (letter : Char) (rest : Text) : Except CommandLineError Draft :=
  match ofShort? letter with
  | some (.opt o) =>
    match rest with
    | [] => d.option o none
    | '=' :: value => d.option o (some value)
    | value => d.option o (some value)
  | some (.notice n) => d.notice n false
  | none => .error (.unexpected ['-', letter])

def plainArgument (d : Draft) (arg : Text) : Except CommandLineError Draft :=
  match d.pending with
  | some (o, none) => .ok { d with pending := some (o, some arg) }
  | _ => .error (.unexpected arg)

def argument (d : Draft) (arg : Text) : Except CommandLineError Draft :=
  match arg with
  | '-' :: '-' :: _ => d.longArgument arg
  | '-' :: letter :: rest => d.shortArgument letter rest
  | _ => d.plainArgument arg

-- After a lone `--` nothing is an option, and nothing else has a place.
def arguments (d : Draft) : List Text → Except CommandLineError Draft
  | [] => d.settle
  | ['-', '-'] :: [] => d.settle
  | ['-', '-'] :: arg :: _ => .error (.unexpected arg)
  | arg :: rest => do
    let d ← d.argument arg
    d.arguments rest

def toOptions (d : Draft) : Options :=
  let o : Options := {}
  { listenIp := d.listenIp.getD o.listenIp
    port := d.port.getD o.port
    credentials := d.credentials
    limits := {
      request := d.request.getD o.limits.request
      reply := d.reply.getD o.limits.reply
      tunnel := d.tunnel.getD o.limits.tunnel }
    statusInterval := d.statusInterval.getD o.statusInterval }

end Draft

def read (args : List Text) : Except CommandLineError Options :=
  (Draft.arguments {} args).map Draft.toOptions

end CommandLine

end GatedProxy
