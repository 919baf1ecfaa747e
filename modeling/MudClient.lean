import MudClient.Failure
import MudClient.KeyMap
import MudClient.Text.Case
import MudClient.Text.Space
import MudClient.Text.Printable
import MudClient.Text.Letter
import MudClient.Text.Quote
import MudClient.Key.Modifier
import MudClient.Key.Terminal
import MudClient.Key.Code
import MudClient.Session.Basic
import MudClient.Session.Host
import MudClient.Command.Line
import MudClient.Command.Fuzzy
import MudClient.Command.Registry
import MudClient.History.Basic
import MudClient.History.Navigator
import MudClient.Data.Basic
import MudClient.Event.Basic
import MudClient.Event.Filter
import MudClient.Event.Registry
import MudClient.Json.Found
import MudClient.Json.Modifier
import MudClient.Json.Path
import MudClient.Lua.Bridge
import MudClient.Lua.Code
import MudClient.Lua.Compile
import MudClient.Lua.Environment
import MudClient.Lua.Format
import MudClient.Lua.Lexer
import MudClient.Lua.Library
import MudClient.Lua.Machine
import MudClient.Order.Quicksort
import MudClient.Lua.Numeral
import MudClient.Lua.Parser
import MudClient.Lua.Pattern
import MudClient.Lua.Sandbox
import MudClient.Lua.Syntax
import MudClient.Lua.Token
import MudClient.Lua.Value
import MudClient.Lua.World
import MudClient.Number.Binary
import MudClient.Number.Decimal
import MudClient.Number.Format
import MudClient.Number.Parse
import MudClient.Number.Elementary
import MudClient.Text.Bytes
import MudClient.Text.Base64
import MudClient.CommandLine.Flag
import MudClient.CommandLine.Tree
import MudClient.Config.Basic
import MudClient.Config.Env
import MudClient.Config.Read
import MudClient.Config.Shape
import MudClient.Console.Program
import MudClient.Console.Session
import MudClient.Disk
import MudClient.Engine.Api
import MudClient.Engine.Basic
import MudClient.Engine.Builtin
import MudClient.Engine.Lifecycle
import MudClient.Engine.Listen
import MudClient.Engine.Loop
import MudClient.Engine.Metrics
import MudClient.Engine.Sessions
import MudClient.Event.Bus
import MudClient.Event.Dispatch
import MudClient.Event.Registrar
import MudClient.Event.Script
import MudClient.Json.Decode
import MudClient.Json.Syntax
import MudClient.Log.Level
import MudClient.Main
import MudClient.Plugin.Loader
import MudClient.Plugin.Manager
import MudClient.Plugin.Manifest
import MudClient.Plugin.Scripted
import MudClient.Schema.Basic
import MudClient.Text.Csv
import MudClient.Text.Path
import MudClient.Time.Duration
import MudClient.Time.Calendar
import MudClient.Toml.Decode
import MudClient.Toml.Keys
import MudClient.Toml.Syntax
import MudClient.Watch.Debounce
import MudClient.Watch.Op
import MudClient.Watch.Volume
import MudClient.Watch.Watcher
import MudClient.Wire.Answer
import MudClient.Wire.Basic
import MudClient.Wire.Cli
import MudClient.Wire.Commands
import MudClient.Wire.Config
import MudClient.Wire.Engine
import MudClient.Wire.Events
import MudClient.Wire.Lua
import MudClient.Wire.Manager
import MudClient.Wire.Plugins
import MudClient.Wire.Watch
import MudClient.Yaml.Decode
import MudClient.Yaml.Event
import MudClient.Yaml.Node
import MudClient.Yaml.Scanner
import MudClient.Yaml.Token
import MudClient.Proofs.Event.Ledger
import MudClient.Proofs.Event.Delivery
import MudClient.Proofs.Event.Totals
import MudClient.Proofs.Event.Registration
import MudClient.Proofs.Command.Table
import MudClient.Proofs.Command.Remainder
import MudClient.Proofs.Command.Suggest
import MudClient.Proofs.Watch.Debounce
import MudClient.Proofs.Number.Exact
import MudClient.Proofs.Event.Numbers
import MudClient.Proofs.Number.Parts
import MudClient.Proofs.Number.Integers
import MudClient.Proofs.Lua.Tables
import MudClient.Proofs.Lua.Sequences
import MudClient.Proofs.Lua.RoundTrip
import MudClient.Proofs.Lua.Walk
import MudClient.Proofs.Plugin.World
import MudClient.Proofs.Plugin.Isolation
import MudClient.Proofs.Plugin.Reachable
import MudClient.Proofs.Plugin.Reload
import MudClient.Proofs.Plugin.Order
import MudClient.Proofs.Plugin.Setup
import MudClient.Proofs.History.Scrolling
import MudClient.Proofs.History.Stops
import MudClient.Proofs.Lua.Frame
import MudClient.Proofs.Text.Lower
import MudClient.Proofs.Key.Canonical
import MudClient.Proofs.Key.Events
import MudClient.Proofs.Engine.Input
import MudClient.Proofs.Engine.Announced
import MudClient.Proofs.Config.HistoryKeys
import MudClient.Proofs.Config.Environment
import MudClient.Proofs.Config.Layers
import MudClient.Proofs.Text.Paths
import MudClient.Proofs.Plugin.Ownership
import MudClient.Proofs.Plugin.Registration
import MudClient.Proofs.Engine.ScriptEffects
import MudClient.Proofs.Engine.Effects
import MudClient.Proofs.Engine.Dispatch
