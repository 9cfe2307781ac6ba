namespace GatedProxy

instance decideResult [DecidableEq ε] [DecidableEq α] : DecidableEq (Except ε α)
  | .ok a, .ok b => decidable_of_iff (a = b) ⟨congrArg Except.ok, Except.ok.inj⟩
  | .error d, .error e => decidable_of_iff (d = e) ⟨congrArg Except.error, Except.error.inj⟩
  | .ok _, .error _ => isFalse nofun
  | .error _, .ok _ => isFalse nofun

inductive SystemError where
  | os (code : Nat)
  | lookupFailed
  | noAddress
  | nulInName
  deriving DecidableEq, Repr

namespace SystemError

def brokenPipe : SystemError := .os 32

def notConnected : SystemError := .os 107

def refused : SystemError := .os 111

def osText : Nat → String
  | 5 => "Input/output error"
  | 13 => "Permission denied"
  | 23 => "Too many open files in system"
  | 24 => "Too many open files"
  | 32 => "Broken pipe"
  | 71 => "Protocol error"
  | 98 => "Address already in use"
  | 99 => "Cannot assign requested address"
  | 101 => "Network is unreachable"
  | 103 => "Software caused connection abort"
  | 104 => "Connection reset by peer"
  | 107 => "Transport endpoint is not connected"
  | 110 => "Connection timed out"
  | 111 => "Connection refused"
  | 113 => "No route to host"
  | code => "Unknown error " ++ toString code

def message : SystemError → String
  | .os code => osText code ++ " (os error " ++ toString code ++ ")"
  | .lookupFailed => "failed to lookup address information: Name or service not known"
  | .noAddress => "could not resolve to any address"
  | .nulInName => "file name contained an unexpected NUL byte"

end SystemError

end GatedProxy
