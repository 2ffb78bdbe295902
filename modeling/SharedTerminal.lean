import SharedTerminal.Client.Command
import SharedTerminal.Client.Error
import SharedTerminal.Client.Link
import SharedTerminal.Client.Settings
import SharedTerminal.CommandLine
import SharedTerminal.Config
import SharedTerminal.Config.Document
import SharedTerminal.Config.File
import SharedTerminal.Console
import SharedTerminal.Daemon.Command
import SharedTerminal.Decimal.Binary64
import SharedTerminal.Endpoint
import SharedTerminal.Engine
import SharedTerminal.Engine.Digest
import SharedTerminal.Envelope
import SharedTerminal.Frame
import SharedTerminal.Gateway
import SharedTerminal.Hub
import SharedTerminal.Hub.Consumer
import SharedTerminal.Ip
import SharedTerminal.Json.Decode
import SharedTerminal.Json.Number
import SharedTerminal.Json.Reader
import SharedTerminal.Json.Text
import SharedTerminal.Json.Value
import SharedTerminal.Machine
import SharedTerminal.Machine.Usual
import SharedTerminal.Main
import SharedTerminal.Network
import SharedTerminal.Network.Party
import SharedTerminal.Network.Peer
import SharedTerminal.Network.Step
import SharedTerminal.Network.View
import SharedTerminal.Prompt
import SharedTerminal.Proofs.Client.Address
import SharedTerminal.Proofs.Endpoint.RoundTrip
import SharedTerminal.Proofs.Hub.Operation
import SharedTerminal.Proofs.Hub.Register
import SharedTerminal.Proofs.Session.Commands
import SharedTerminal.Proofs.Session.Delivery
import SharedTerminal.Proofs.Session.Ending
import SharedTerminal.Proofs.Session.Invariant
import SharedTerminal.Proofs.Session.Listening
import SharedTerminal.Proofs.Session.Operation
import SharedTerminal.Proofs.Session.Seats
import SharedTerminal.Proofs.Session.Settling
import SharedTerminal.Proofs.Session.Touch
import SharedTerminal.Proofs.Url.Path
import SharedTerminal.RequestHead
import SharedTerminal.Session
import SharedTerminal.Session.Channel
import SharedTerminal.Session.Error
import SharedTerminal.Session.Lifecycle
import SharedTerminal.Session.Listeners
import SharedTerminal.Session.LogFile
import SharedTerminal.Shape
import SharedTerminal.Shell.Arithmetic
import SharedTerminal.Shell.Command
import SharedTerminal.Shell.Condition
import SharedTerminal.Shell.Printf
import SharedTerminal.Shell.Program
import SharedTerminal.Shell.Reader
import SharedTerminal.Shell.Script
import SharedTerminal.Shell.World
import SharedTerminal.Task
import SharedTerminal.Terminal
import SharedTerminal.Text.Blank
import SharedTerminal.Text.Direction
import SharedTerminal.Text.Duration
import SharedTerminal.Text.Joining
import SharedTerminal.Text.Normal
import SharedTerminal.Text.Numeral
import SharedTerminal.Text.Percent
import SharedTerminal.Text.Quoted
import SharedTerminal.Text.Runs
import SharedTerminal.Text.Unprintable
import SharedTerminal.Text.Utf8
import SharedTerminal.Toml.Document
import SharedTerminal.Toml.Node
import SharedTerminal.Toml.Number
import SharedTerminal.Toml.Statement
import SharedTerminal.Toml.Text
import SharedTerminal.Url
import SharedTerminal.Url.Domain
import SharedTerminal.Url.Host
import SharedTerminal.Url.Mapping
import SharedTerminal.Url.Path
import SharedTerminal.Url.Punycode
import SharedTerminal.Proofs.Session.Announcement
import SharedTerminal.Proofs.Session.Independence
import SharedTerminal.Proofs.Session.Keeping
import SharedTerminal.Proofs.Gateway.Keeping
import SharedTerminal.Proofs.Prompt.Operation
import SharedTerminal.Proofs.Prompt.Protocol
import SharedTerminal.Proofs.Endpoint.Language
import SharedTerminal.Proofs.Prompt.Chunking
import SharedTerminal.Proofs.Prompt.Readiness
import SharedTerminal.Proofs.Prompt.Routing
import SharedTerminal.Proofs.Prompt.Erasing
import SharedTerminal.Proofs.Hub.Call
import SharedTerminal.Proofs.Session.LogFile
import SharedTerminal.Proofs.Session.Inspection
import SharedTerminal.Proofs.Hub.Isolation
import SharedTerminal.Proofs.Session.Absence
import SharedTerminal.Proofs.Session.Interference
import SharedTerminal.Proofs.Envelope.RoundTrip
import SharedTerminal.Proofs.Gateway.Pairing
import SharedTerminal.Proofs.Gateway.Speaking
import SharedTerminal.Proofs.Client.Errand
import SharedTerminal.Proofs.Gateway.Obedience
import SharedTerminal.Proofs.Session.Logging
import SharedTerminal.Proofs.Config.RoundTrip
import SharedTerminal.Proofs.Session.Lifecycle
import SharedTerminal.Proofs.Session.Takeover
import SharedTerminal.Proofs.Hub.FailedStart
import SharedTerminal.Proofs.Config.Layers
import SharedTerminal.Proofs.Daemon.Configuration
import SharedTerminal.Proofs.Network.Joined
import SharedTerminal.Proofs.Network.Stage
import SharedTerminal.Proofs.Network.Opening
import SharedTerminal.Proofs.Hub.Refusal
import SharedTerminal.Proofs.Json.Grammar
import SharedTerminal.Proofs.Json.Number
import SharedTerminal.Proofs.Json.Acceptance
import SharedTerminal.Proofs.Json.Records
import SharedTerminal.Proofs.Envelope.Members
import SharedTerminal.Proofs.Config.Partial
import SharedTerminal.Proofs.Session.Subscription
import SharedTerminal.Proofs.Session.Queue
