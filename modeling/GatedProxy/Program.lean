import GatedProxy.CommandLine
import GatedProxy.Log.Filter
import GatedProxy.Server.Run

namespace GatedProxy

structure ProgramResult where
  exit : Nat := 0
  output : String := ""
  errors : List String := []
  deriving DecidableEq, Repr

def ProgramResult.outputLines (r : ProgramResult) : List String :=
  (Text.lines r.output.toList).map String.ofList

namespace Program

def source : Text := "preauth_proxy".toList

def failure (message : String) : ProgramResult := { exit := 1, errors := ["0: " ++ message] }

def refusal (e : CommandLineError) : ProgramResult :=
  match e with
  | .help _ | .version => { output := e.printed }
  | _ => { exit := 2, errors := [String.ofList (Text.trimEnd e.printed.toList)] }

-- A server that is stopped before any connection has come.
def events (s : Settings) (address : SocketAddress) : List LogEvent :=
  let start : Timeline := { statusSeconds := s.statusInterval }
  let (_, journal) := start.stop s.policy
  [.listening address, .configured s.credentials.sortedUsers, .signalled] ++ journal.events ++
    [.leaving]

def serve (f : LogFilter) (s : Settings) (address : SocketAddress) : ProgramResult :=
  let entries := (events s address).filterMap (LogLine.render? f source)
  { output := String.join (entries.map (· ++ "\n")) }

-- The program breaks down where the text for its log cannot be cut into parts. The first line of
-- what it says then is empty.
def broken : ProgramResult := { exit := 101, errors := [""] }

def run (wanted : Option Text) (args : List Text)
    (bind : SocketAddress → Except SystemError SocketAddress) : ProgramResult :=
  match LogFilter.wanted? source wanted with
  | none => broken
  | some filter =>
    match CommandLine.read args with
    | .error e => refusal e
    | .ok options =>
      match Settings.ofOptions options with
      | .error e => failure e.message
      | .ok settings =>
        match bind settings.listen with
        | .error e => failure e.message
        | .ok address => serve filter settings address

end Program

end GatedProxy
