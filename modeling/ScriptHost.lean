import ScriptHost.Calendar
import ScriptHost.Channel.Basic
import ScriptHost.Channel.Message
import ScriptHost.CommandLine.Arguments
import ScriptHost.CommandLine.Run
import ScriptHost.Daemon.Request
import ScriptHost.Daemon.Serve
import ScriptHost.Data.Fields
import ScriptHost.Datum.Basic
import ScriptHost.Datum.Display
import ScriptHost.Datum.Json
import ScriptHost.Dispatch.Dispatcher
import ScriptHost.Dispatch.Error
import ScriptHost.Dispatch.Operation
import ScriptHost.Dispatch.Typed
import ScriptHost.Doctor
import ScriptHost.Engine.Kind
import ScriptHost.Engine.Request
import ScriptHost.Engine.Scripted
import ScriptHost.Files
import ScriptHost.Json.Basic
import ScriptHost.Json.Decode
import ScriptHost.Json.Printer
import ScriptHost.Json.Reader
import ScriptHost.Json.Skip
import ScriptHost.Log.Filter
import ScriptHost.Log.Line
import ScriptHost.Log.Record
import ScriptHost.Main
import ScriptHost.Number.Decimal
import ScriptHost.Number.Double
import ScriptHost.Number.Layout
import ScriptHost.Proofs.Channel.Arguments
import ScriptHost.Proofs.Channel.CreationLimits
import ScriptHost.Proofs.Channel.HostCalls
import ScriptHost.Proofs.Channel.Limits
import ScriptHost.Proofs.Channel.NulCharacter
import ScriptHost.Proofs.Channel.Script
import ScriptHost.Proofs.Daemon.Serving
import ScriptHost.Proofs.Data.Fields
import ScriptHost.Proofs.Datum.Handles
import ScriptHost.Proofs.Datum.JsonView
import ScriptHost.Proofs.Datum.Rereading
import ScriptHost.Proofs.Dispatch.Changes
import ScriptHost.Proofs.Dispatch.Conduct
import ScriptHost.Proofs.Dispatch.Conservation
import ScriptHost.Proofs.Dispatch.Contention
import ScriptHost.Proofs.Dispatch.DefaultEngine
import ScriptHost.Proofs.Dispatch.Direct
import ScriptHost.Proofs.Dispatch.Disposals
import ScriptHost.Proofs.Dispatch.Effect
import ScriptHost.Proofs.Dispatch.Handles
import ScriptHost.Proofs.Dispatch.Implicit
import ScriptHost.Proofs.Dispatch.Independence
import ScriptHost.Proofs.Dispatch.Lifecycle
import ScriptHost.Proofs.Dispatch.Locking
import ScriptHost.Proofs.Dispatch.Noting
import ScriptHost.Proofs.Dispatch.Outcomes
import ScriptHost.Proofs.Dispatch.Places
import ScriptHost.Proofs.Dispatch.Progress
import ScriptHost.Proofs.Dispatch.Respond
import ScriptHost.Proofs.Dispatch.Retiring
import ScriptHost.Proofs.Dispatch.Solo
import ScriptHost.Proofs.Dispatch.Step
import ScriptHost.Proofs.Dispatch.Tables
import ScriptHost.Proofs.Dispatch.Typed
import ScriptHost.Proofs.Dispatch.Uncontended
import ScriptHost.Proofs.Dispatch.Unreadable
import ScriptHost.Proofs.Doctor
import ScriptHost.Proofs.Number.Comparing
import ScriptHost.Proofs.Number.Integers
import ScriptHost.Proofs.Number.Nearest
import ScriptHost.Proofs.Report.Rereading
import ScriptHost.Proofs.Scenario.Expectations
import ScriptHost.Proofs.Scenario.Running
import ScriptHost.Proofs.Scenario.Substituting
import ScriptHost.Proofs.Script.Calling
import ScriptHost.Proofs.Script.Canon
import ScriptHost.Proofs.Script.Clock
import ScriptHost.Proofs.Script.Declining
import ScriptHost.Proofs.Script.Delivering
import ScriptHost.Proofs.Script.Diverging
import ScriptHost.Proofs.Script.Exporting
import ScriptHost.Proofs.Script.Flaws
import ScriptHost.Proofs.Script.Fresh
import ScriptHost.Proofs.Script.Globals
import ScriptHost.Proofs.Script.Growing
import ScriptHost.Proofs.Script.Importing
import ScriptHost.Proofs.Script.Keeping
import ScriptHost.Proofs.Script.Layouts
import ScriptHost.Proofs.Script.Lifespan
import ScriptHost.Proofs.Script.NodeLimit
import ScriptHost.Proofs.Script.Prospects
import ScriptHost.Proofs.Script.Realm
import ScriptHost.Proofs.Script.Recalling
import ScriptHost.Proofs.Script.Records
import ScriptHost.Proofs.Script.Refusal
import ScriptHost.Proofs.Script.Running
import ScriptHost.Proofs.Script.Session
import ScriptHost.Proofs.Script.Traversing
import ScriptHost.Proofs.Script.Unfolding
import ScriptHost.Proofs.Text.Utf8
import ScriptHost.Proofs.Wire.Decoding
import ScriptHost.Proofs.Wire.Delimiting
import ScriptHost.Proofs.Wire.Format
import ScriptHost.Proofs.Wire.Reading
import ScriptHost.Proofs.Wire.Requests
import ScriptHost.Proofs.Wire.Script
import ScriptHost.Proofs.Wire.Sizes
import ScriptHost.Proofs.Wire.Varint
import ScriptHost.Proofs.Wire.Writing
import ScriptHost.Proofs.Worker.Answers
import ScriptHost.Proofs.Worker.Awaits
import ScriptHost.Proofs.Worker.Barrier
import ScriptHost.Proofs.Worker.Linear
import ScriptHost.Proofs.Worker.Progress
import ScriptHost.Proofs.Worker.Solo
import ScriptHost.Proofs.Worker.Step
import ScriptHost.Proofs.Yaml.Reading
import ScriptHost.Redaction.Replace
import ScriptHost.Redaction.Syntax
import ScriptHost.Report.CallResult
import ScriptHost.Report.Status
import ScriptHost.Scenario.Basic
import ScriptHost.Scenario.Document
import ScriptHost.Scenario.Run
import ScriptHost.Script.Access
import ScriptHost.Script.Builtin.Array
import ScriptHost.Script.Builtin.Buffer
import ScriptHost.Script.Builtin.Collection
import ScriptHost.Script.Builtin.Date
import ScriptHost.Script.Builtin.Function
import ScriptHost.Script.Builtin.Global
import ScriptHost.Script.Builtin.Json
import ScriptHost.Script.Builtin.Number
import ScriptHost.Script.Builtin.Object
import ScriptHost.Script.Builtin.Pattern
import ScriptHost.Script.Builtin.Promise
import ScriptHost.Script.Builtin.Table
import ScriptHost.Script.Builtin.Text
import ScriptHost.Script.Call
import ScriptHost.Script.Convert
import ScriptHost.Script.Engine
import ScriptHost.Script.Evaluate.Class
import ScriptHost.Script.Evaluate.Expression
import ScriptHost.Script.Evaluate.Pattern
import ScriptHost.Script.Evaluate.Perform
import ScriptHost.Script.Evaluate.Program
import ScriptHost.Script.Evaluate.Statement
import ScriptHost.Script.Exchange
import ScriptHost.Script.Grammar.Basic
import ScriptHost.Script.Grammar.Definition
import ScriptHost.Script.Grammar.Expression
import ScriptHost.Script.Grammar.Program
import ScriptHost.Script.Grammar.Statement
import ScriptHost.Script.Heap
import ScriptHost.Script.Host
import ScriptHost.Script.Intrinsic
import ScriptHost.Script.Invoke
import ScriptHost.Script.Iteration
import ScriptHost.Script.Letter
import ScriptHost.Script.Machine
import ScriptHost.Script.Native
import ScriptHost.Script.NumberText
import ScriptHost.Script.Operator
import ScriptHost.Script.PatternText
import ScriptHost.Script.Promise
import ScriptHost.Script.Property
import ScriptHost.Script.Realm
import ScriptHost.Script.Scope
import ScriptHost.Script.Syntax
import ScriptHost.Script.Task
import ScriptHost.Script.Token
import ScriptHost.Script.Value
import ScriptHost.Settings.Basic
import ScriptHost.Settings.Json
import ScriptHost.Settings.Layer
import ScriptHost.Settings.Load
import ScriptHost.Settings.Source
import ScriptHost.Text.Case
import ScriptHost.Text.Letter
import ScriptHost.Text.Pattern
import ScriptHost.Text.Quoted
import ScriptHost.Text.Utf16
import ScriptHost.Text.Utf8
import ScriptHost.Wire.Basic
import ScriptHost.Wire.Codec
import ScriptHost.Wire.Datum
import ScriptHost.Wire.Varint
import ScriptHost.Worker.Basic
import ScriptHost.Yaml.Content
import ScriptHost.Yaml.Cursor
import ScriptHost.Yaml.Decode
import ScriptHost.Yaml.Fault
import ScriptHost.Yaml.Node
import ScriptHost.Yaml.Scalar
import ScriptHost.Yaml.Schema
import ScriptHost.Yaml.Token
