import RobotSession.Bridge.Controller
import RobotSession.Bridge.Slot
import RobotSession.Bridge.Threads
import RobotSession.Bridge.Worker
import RobotSession.CommandLine.Grammar
import RobotSession.CommandLine.Refusal
import RobotSession.CommandLine.Request
import RobotSession.CommandLine.Similarity
import RobotSession.Engine.Basic
import RobotSession.Engine.Inbox
import RobotSession.Engine.Run
import RobotSession.Files
import RobotSession.Host.Diagnostic
import RobotSession.Host.Simulation
import RobotSession.Host.SystemError
import RobotSession.Json.Codec
import RobotSession.Json.Fault
import RobotSession.Json.Reader
import RobotSession.Json.Value
import RobotSession.Lua.Access
import RobotSession.Lua.Arguments
import RobotSession.Lua.Arithmetic
import RobotSession.Lua.Ast
import RobotSession.Lua.Code
import RobotSession.Lua.Compile
import RobotSession.Lua.Format
import RobotSession.Lua.Instruction
import RobotSession.Lua.Library.Base
import RobotSession.Lua.Library.Catalog
import RobotSession.Lua.Library.Continue
import RobotSession.Lua.Library.Coroutines
import RobotSession.Lua.Library.Math
import RobotSession.Lua.Library.Packages
import RobotSession.Lua.Library.Robot
import RobotSession.Lua.Library.System
import RobotSession.Lua.Library.Tables
import RobotSession.Lua.Library.Text
import RobotSession.Lua.Library.Unicode
import RobotSession.Lua.Load
import RobotSession.Lua.Numeral
import RobotSession.Lua.Open
import RobotSession.Lua.Parser
import RobotSession.Lua.Pattern
import RobotSession.Lua.State
import RobotSession.Lua.Step
import RobotSession.Lua.Token
import RobotSession.Lua.Value
import RobotSession.Main
import RobotSession.Number.Binary64
import RobotSession.Number.Decimal
import RobotSession.Number.Duration
import RobotSession.Program.Execution
import RobotSession.Program.Plan
import RobotSession.Proofs.Bridge.Accounts
import RobotSession.Proofs.Bridge.Audience
import RobotSession.Proofs.Bridge.Calls
import RobotSession.Proofs.Bridge.Classification
import RobotSession.Proofs.Bridge.Coherence
import RobotSession.Proofs.Bridge.Custody
import RobotSession.Proofs.Bridge.Extent
import RobotSession.Proofs.Bridge.Handles
import RobotSession.Proofs.Bridge.Interleaving
import RobotSession.Proofs.Bridge.Interval
import RobotSession.Proofs.Bridge.Jobs
import RobotSession.Proofs.Bridge.Modes
import RobotSession.Proofs.Bridge.Moves
import RobotSession.Proofs.Bridge.Phases
import RobotSession.Proofs.Bridge.Pipeline
import RobotSession.Proofs.Bridge.Solo
import RobotSession.Proofs.Bridge.Stations
import RobotSession.Proofs.Bridge.Steps
import RobotSession.Proofs.Bridge.Teardown
import RobotSession.Proofs.Bridge.Unhooked
import RobotSession.Proofs.Bridge.View
import RobotSession.Proofs.Bridge.Waiting
import RobotSession.Proofs.Engine.Constructions
import RobotSession.Proofs.Engine.Coverage
import RobotSession.Proofs.Engine.Draining
import RobotSession.Proofs.Engine.Fleet
import RobotSession.Proofs.Engine.History
import RobotSession.Proofs.Engine.Inbox
import RobotSession.Proofs.Engine.Isolation
import RobotSession.Proofs.Engine.Life
import RobotSession.Proofs.Engine.Loading
import RobotSession.Proofs.Engine.Locking
import RobotSession.Proofs.Engine.Notices
import RobotSession.Proofs.Engine.Outcome
import RobotSession.Proofs.Engine.Owner
import RobotSession.Proofs.Engine.Rounds
import RobotSession.Proofs.Engine.Sleeping
import RobotSession.Proofs.Engine.Slumber
import RobotSession.Proofs.Engine.Thorough
import RobotSession.Proofs.Engine.Turn
import RobotSession.Proofs.Engine.Unhooked
import RobotSession.Proofs.Engine.View
import RobotSession.Proofs.Json.Faithful
import RobotSession.Proofs.Json.Meaning
import RobotSession.Proofs.Json.Reading
import RobotSession.Proofs.Json.Records
import RobotSession.Proofs.Json.Skipping
import RobotSession.Proofs.Json.Tree
import RobotSession.Proofs.Json.Understanding
import RobotSession.Proofs.Lua.Bare
import RobotSession.Proofs.Lua.Deliveries
import RobotSession.Proofs.Lua.Dialogue
import RobotSession.Proofs.Lua.Dispatch
import RobotSession.Proofs.Lua.Exchange
import RobotSession.Proofs.Lua.Hook
import RobotSession.Proofs.Lua.Nesting
import RobotSession.Proofs.Lua.Outline
import RobotSession.Proofs.Lua.Printing
import RobotSession.Proofs.Lua.Retained
import RobotSession.Proofs.Lua.Shift
import RobotSession.Proofs.Lua.Stray
import RobotSession.Proofs.Lua.Threads
import RobotSession.Proofs.Lua.Trail
import RobotSession.Proofs.Program.Completion
import RobotSession.Proofs.Program.Effective
import RobotSession.Proofs.Program.Execution
import RobotSession.Proofs.Run
import RobotSession.Proofs.Session.RoundTrip
import RobotSession.Proofs.Session.Timestamp
import RobotSession.Proofs.Session.Uuid
import RobotSession.Proofs.Settings.Override
import RobotSession.Proofs.Settings.Partial
import RobotSession.Proofs.Settings.Reading
import RobotSession.Proofs.Settings.Sources
import RobotSession.Proofs.Text.Utf8
import RobotSession.Rehearsal.EngineBench
import RobotSession.Rehearsal.HostBench
import RobotSession.Rehearsal.Script
import RobotSession.Rehearsal.Session
import RobotSession.Rehearsal.SettingsBench
import RobotSession.Session.Error
import RobotSession.Session.Record
import RobotSession.Session.Report
import RobotSession.Session.Shared
import RobotSession.Session.Timestamp
import RobotSession.Session.Uuid
import RobotSession.Settings.Basic
import RobotSession.Text.Blank
import RobotSession.Text.Quoted
import RobotSession.Text.Utf8
