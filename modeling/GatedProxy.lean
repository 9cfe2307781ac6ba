import GatedProxy.Address
import GatedProxy.CommandLine
import GatedProxy.Connection
import GatedProxy.Credential
import GatedProxy.Dial
import GatedProxy.Log.Event
import GatedProxy.Log.Filter
import GatedProxy.Main
import GatedProxy.Pattern
import GatedProxy.Program
import GatedProxy.Proofs.CommandLine.Reader
import GatedProxy.Proofs.CommandLine.Spelling
import GatedProxy.Proofs.Connection
import GatedProxy.Proofs.Credential
import GatedProxy.Proofs.Dial
import GatedProxy.Proofs.Presence
import GatedProxy.Proofs.Request.Basic
import GatedProxy.Proofs.Request.Line
import GatedProxy.Proofs.Request.Normal
import GatedProxy.Proofs.Request.Target
import GatedProxy.Proofs.Run
import GatedProxy.Proofs.Server.ActiveCount
import GatedProxy.Proofs.Server.Census
import GatedProxy.Proofs.Server.Clock
import GatedProxy.Proofs.Server.Isolation
import GatedProxy.Proofs.Server.Polling
import GatedProxy.Proofs.Server.Sessions
import GatedProxy.Proofs.Server.Shutdown
import GatedProxy.Proofs.Server.Step
import GatedProxy.Proofs.Server.Traffic
import GatedProxy.Proofs.Server.Watch
import GatedProxy.Proofs.Session.Answer
import GatedProxy.Proofs.Session.Bytes
import GatedProxy.Proofs.Session.Dialed
import GatedProxy.Proofs.Session.Discretion
import GatedProxy.Proofs.Session.Establish
import GatedProxy.Proofs.Session.Gate
import GatedProxy.Proofs.Session.Integrity
import GatedProxy.Proofs.Session.Journal
import GatedProxy.Proofs.Session.Message
import GatedProxy.Proofs.Session.Provenance
import GatedProxy.Proofs.Session.Relay
import GatedProxy.Proofs.Session.Step
import GatedProxy.Proofs.Session.Table
import GatedProxy.Proofs.Session.Teardown
import GatedProxy.Proofs.Session.Truncation
import GatedProxy.Proofs.Session.TunnelRun
import GatedProxy.Proofs.Session.Verbatim
import GatedProxy.Proofs.Session.Verdict
import GatedProxy.Proofs.SessionId
import GatedProxy.Proofs.Settings
import GatedProxy.Proofs.Text.Cut
import GatedProxy.Proofs.Text.Lines
import GatedProxy.Proofs.Text.Number
import GatedProxy.Proofs.Text.Utf8
import GatedProxy.Proofs.Text.Words
import GatedProxy.Proofs.Traffic
import GatedProxy.Proofs.Tunnel.Account
import GatedProxy.Proofs.Tunnel.Flow
import GatedProxy.Proofs.Tunnel.Step
import GatedProxy.Request
import GatedProxy.Response
import GatedProxy.Server.Basic
import GatedProxy.Server.Run
import GatedProxy.Session.Basic
import GatedProxy.Session.Occurrence
import GatedProxy.Session.Outcome
import GatedProxy.Session.Run
import GatedProxy.Settings
import GatedProxy.SystemError
import GatedProxy.Text.Alphanumeric
import GatedProxy.Text.Basic
import GatedProxy.Text.Plain
import GatedProxy.Text.Quoted
import GatedProxy.Traffic
import GatedProxy.Tunnel.Basic
import GatedProxy.Tunnel.Work
