import GatedProxy.Address
import GatedProxy.Credential
import GatedProxy.Text.Quoted

namespace GatedProxy

structure Limits where
  request : Nat := 4096
  reply : Nat := 4096
  tunnel : Nat := 4096
  deriving DecidableEq, Repr

-- No memory holds a larger buffer. Settings may ask for one all the same.
def Limits.largest : Nat := 0x7fffffffffffffff

-- What the user asked for. No list of credentials is not the same as an empty one.
structure Options where
  listenIp : IpAddress := .v4 .unspecified
  port : UInt16 := 8091
  credentials : Option (List Text) := none
  limits : Limits := {}
  statusInterval : Nat := 300
  deriving DecidableEq, Repr

structure Settings where
  listen : SocketAddress
  credentials : CredentialTable
  limits : Limits
  statusInterval : Nat
  deriving DecidableEq, Repr

inductive Buffer where
  | request
  | reply
  | tunnel
  deriving DecidableEq, Repr

def Buffer.flag : Buffer → String
  | .request => "--request-buffer"
  | .reply => "--reply-buffer"
  | .tunnel => "--tunnel-buffer"

def Limits.size (limits : Limits) : Buffer → Nat
  | .request => limits.request
  | .reply => limits.reply
  | .tunnel => limits.tunnel

inductive SettingsError where
  | invalidCredential (entry : Text)
  | noCredentials
  | zeroBuffer (which : Buffer)
  deriving DecidableEq, Repr

def SettingsError.message : SettingsError → String
  | .invalidCredential entry =>
    "invalid credential " ++ String.ofList (Text.quoted entry) ++ ", expected user:pass"
  | .noCredentials => "at least one credential is required"
  | .zeroBuffer which => which.flag ++ " must be greater than zero"

namespace Settings

def defaultCredentials : List Text := ["enterpriseuser:enterprise123".toList]

-- A configured entry needs a user name; one that a client sends may lack it.
def readEntry (entry : Text) : Except SettingsError Credential :=
  match Credential.ofPair? entry with
  | some c => if c.user.isEmpty then .error (.invalidCredential entry) else .ok c
  | none => .error (.invalidCredential entry)

def readEntries : List Text → Except SettingsError (List Credential)
  | [] => .ok []
  | entry :: rest => do
    let c ← readEntry entry
    let others ← readEntries rest
    .ok (c :: others)

def zeroBuffer? (limits : Limits) : Option Buffer :=
  [Buffer.request, .reply, .tunnel].find? fun which => limits.size which = 0

def ofOptions (o : Options) : Except SettingsError Settings := do
  let entries ← readEntries (o.credentials.getD defaultCredentials)
  let credentials := CredentialTable.ofList entries
  if credentials.size = 0 then .error .noCredentials
  else
    match zeroBuffer? o.limits with
    | some which => .error (.zeroBuffer which)
    | none =>
      .ok { listen := ⟨o.listenIp, o.port⟩, credentials, limits := o.limits,
            statusInterval := o.statusInterval }

end Settings

end GatedProxy
