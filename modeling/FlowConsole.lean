import FlowConsole.Command.Arguments
import FlowConsole.Command.Basic
import FlowConsole.Command.Error
import FlowConsole.Command.Flag
import FlowConsole.Command.Run
import FlowConsole.Command.Settings
import FlowConsole.Config.Basic
import FlowConsole.Config.Environment
import FlowConsole.Config.Error
import FlowConsole.Config.Extract
import FlowConsole.Config.Load
import FlowConsole.Config.Resolve
import FlowConsole.Config.Setting
import FlowConsole.Decimal.Binary64
import FlowConsole.Decimal.Shortest
import FlowConsole.Entries
import FlowConsole.Files.Error
import FlowConsole.Files.Node
import FlowConsole.Files.Path
import FlowConsole.Files.Tree
import FlowConsole.Fixture.Kind
import FlowConsole.Fixture.Letter
import FlowConsole.Fixture.Scan
import FlowConsole.Fixture.Store
import FlowConsole.Harness.Basic
import FlowConsole.Harness.Error
import FlowConsole.Http.Client
import FlowConsole.Http.Controller
import FlowConsole.Http.Error
import FlowConsole.Http.Status
import FlowConsole.Json.Error
import FlowConsole.Json.Number
import FlowConsole.Json.Printer
import FlowConsole.Json.Reader
import FlowConsole.Json.Value
import FlowConsole.Main
import FlowConsole.Menu.Action
import FlowConsole.Menu.Session
import FlowConsole.Proofs.Action
import FlowConsole.Proofs.Command.Arguments
import FlowConsole.Proofs.Command.Authorization
import FlowConsole.Proofs.Command.Credentials
import FlowConsole.Proofs.Command.ExitCode
import FlowConsole.Proofs.Command.FlagVariable
import FlowConsole.Proofs.Command.LocalError
import FlowConsole.Proofs.Command.Lockstep
import FlowConsole.Proofs.Command.MenuAgreement
import FlowConsole.Proofs.Command.Override
import FlowConsole.Proofs.Command.Plan
import FlowConsole.Proofs.Command.Presentation
import FlowConsole.Proofs.Command.RecordRun
import FlowConsole.Proofs.Command.RecordSource
import FlowConsole.Proofs.Command.Restyling
import FlowConsole.Proofs.Command.Secrecy
import FlowConsole.Proofs.Command.Spelling
import FlowConsole.Proofs.Command.Traffic
import FlowConsole.Proofs.Config.Document
import FlowConsole.Proofs.Config.Environment
import FlowConsole.Proofs.Config.Extract
import FlowConsole.Proofs.Config.Grammar
import FlowConsole.Proofs.Config.Layers
import FlowConsole.Proofs.Config.Loaded
import FlowConsole.Proofs.Config.Notation
import FlowConsole.Proofs.Config.Numeral
import FlowConsole.Proofs.Config.OneSetting
import FlowConsole.Proofs.Config.PasswordVariable
import FlowConsole.Proofs.Config.RefusedHost
import FlowConsole.Proofs.Config.RoundTrip
import FlowConsole.Proofs.Config.Setting
import FlowConsole.Proofs.Entries
import FlowConsole.Proofs.Files.Order
import FlowConsole.Proofs.Files.Tree
import FlowConsole.Proofs.Fixture.Catalogue
import FlowConsole.Proofs.Fixture.Extension
import FlowConsole.Proofs.Fixture.FlowName
import FlowConsole.Proofs.Fixture.Letter
import FlowConsole.Proofs.Fixture.Numeral
import FlowConsole.Proofs.Fixture.Scan
import FlowConsole.Proofs.Fixture.Store
import FlowConsole.Proofs.Harness.Authorization
import FlowConsole.Proofs.Http.Echo
import FlowConsole.Proofs.Http.Exchange
import FlowConsole.Proofs.Http.PlainClient
import FlowConsole.Proofs.Http.Traffic
import FlowConsole.Proofs.Json.Canonical
import FlowConsole.Proofs.Json.Members
import FlowConsole.Proofs.Json.Reading
import FlowConsole.Proofs.Json.RoundTrip
import FlowConsole.Proofs.Json.Scalar
import FlowConsole.Proofs.Menu.Choice
import FlowConsole.Proofs.Menu.Dialogue
import FlowConsole.Proofs.Menu.Traffic
import FlowConsole.Proofs.Record.CmtsNode
import FlowConsole.Proofs.Record.Envelope
import FlowConsole.Proofs.Record.FlowKey
import FlowConsole.Proofs.Record.Listing
import FlowConsole.Proofs.Record.NodeId
import FlowConsole.Proofs.Record.NumericId
import FlowConsole.Proofs.Report.Catalogue
import FlowConsole.Proofs.Report.FixtureText
import FlowConsole.Proofs.Report.JsonText
import FlowConsole.Proofs.Restconf.AcceptedHost
import FlowConsole.Proofs.Restconf.AnyPath
import FlowConsole.Proofs.Restconf.CmtsAddress
import FlowConsole.Proofs.Restconf.FlowAddress
import FlowConsole.Proofs.Restconf.History
import FlowConsole.Proofs.Restconf.ListedFlows
import FlowConsole.Proofs.Restconf.LocalError
import FlowConsole.Proofs.Restconf.NamedNode
import FlowConsole.Proofs.Restconf.Path
import FlowConsole.Proofs.Restconf.Resource
import FlowConsole.Proofs.Restconf.Session
import FlowConsole.Proofs.Restconf.Statistics
import FlowConsole.Proofs.Restconf.Sweep
import FlowConsole.Proofs.Restconf.SweptFlow
import FlowConsole.Proofs.Restconf.Traffic
import FlowConsole.Proofs.Text.Base64
import FlowConsole.Proofs.Text.ByteOrder
import FlowConsole.Proofs.Text.Composition
import FlowConsole.Proofs.Text.Split
import FlowConsole.Proofs.Text.Utf8
import FlowConsole.Proofs.Toml.Quoted
import FlowConsole.Proofs.Toml.RoundTrip
import FlowConsole.Proofs.Toml.Scalar
import FlowConsole.Proofs.Toml.Table
import FlowConsole.Proofs.TwoRuns
import FlowConsole.Proofs.Url.AnyPort
import FlowConsole.Proofs.Url.Authority
import FlowConsole.Proofs.Url.BareHost
import FlowConsole.Proofs.Url.HostColon
import FlowConsole.Proofs.Url.HostName
import FlowConsole.Proofs.Url.Percent
import FlowConsole.Proofs.Url.PlainHost
import FlowConsole.Proofs.Url.Segments
import FlowConsole.Record.Builtin
import FlowConsole.Record.Identifier
import FlowConsole.Record.Key
import FlowConsole.Record.Listing
import FlowConsole.Record.Statistics
import FlowConsole.Report.Format
import FlowConsole.Report.Table
import FlowConsole.Report.Text
import FlowConsole.Restconf.Outcome
import FlowConsole.Restconf.Path
import FlowConsole.Restconf.Session
import FlowConsole.Text.Base64
import FlowConsole.Text.Blank
import FlowConsole.Text.CharSet
import FlowConsole.Text.Composition
import FlowConsole.Text.Property
import FlowConsole.Text.Quoted
import FlowConsole.Text.Split
import FlowConsole.Text.Utf8
import FlowConsole.Text.Width
import FlowConsole.Toml.Reader
import FlowConsole.Toml.Scalar
import FlowConsole.Toml.Table
import FlowConsole.Toml.Value
import FlowConsole.Toml.Writer
import FlowConsole.Url.Address
import FlowConsole.Url.Basic
import FlowConsole.Url.Direction
import FlowConsole.Url.DomainMapping
import FlowConsole.Url.DomainMapping.Ideograph
import FlowConsole.Url.DomainMapping.Letter
import FlowConsole.Url.DomainMapping.Presentation
import FlowConsole.Url.DomainMapping.Squared
import FlowConsole.Url.DomainMapping.Table
import FlowConsole.Url.DomainName
import FlowConsole.Url.Error
import FlowConsole.Url.Label
import FlowConsole.Url.Percent
import FlowConsole.Url.Punycode
import FlowConsole.Url.Reader
