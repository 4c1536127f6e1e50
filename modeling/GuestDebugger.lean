import GuestDebugger.Adapter.Frame
import GuestDebugger.Adapter.Message
import GuestDebugger.Adapter.Requests
import GuestDebugger.Adapter.Server
import GuestDebugger.Adapter.Service
import GuestDebugger.Adapter.Wire
import GuestDebugger.Address
import GuestDebugger.AddressMap
import GuestDebugger.AddressMap.Lemmas
import GuestDebugger.AddressMap.Order
import GuestDebugger.Breakpoints
import GuestDebugger.Bytes
import GuestDebugger.Bytes.Lemmas
import GuestDebugger.Clock
import GuestDebugger.CommandLine
import GuestDebugger.Decimal.Binary
import GuestDebugger.Decimal.Fixed
import GuestDebugger.Decimal.Shortest
import GuestDebugger.Display.Basic
import GuestDebugger.Display.Error
import GuestDebugger.Display.Surface
import GuestDebugger.Engine.Basic
import GuestDebugger.Engine.Machine
import GuestDebugger.Except.Lemmas
import GuestDebugger.Host
import GuestDebugger.Json.Basic
import GuestDebugger.Json.Lemmas
import GuestDebugger.Json.Printer
import GuestDebugger.Json.Reader
import GuestDebugger.Labels
import GuestDebugger.Launch
import GuestDebugger.Listing.Basic
import GuestDebugger.Listing.Op
import GuestDebugger.Listing.Reader
import GuestDebugger.Main
import GuestDebugger.Prompt.Command
import GuestDebugger.Prompt.Listings
import GuestDebugger.Prompt.Loop
import GuestDebugger.Proofs.Adapter.Answers
import GuestDebugger.Proofs.Adapter.Completion
import GuestDebugger.Proofs.Adapter.Frames
import GuestDebugger.Proofs.Adapter.Interleaving
import GuestDebugger.Proofs.Adapter.Messages
import GuestDebugger.Proofs.Adapter.Ownership
import GuestDebugger.Proofs.Adapter.Requests
import GuestDebugger.Proofs.Adapter.Serving
import GuestDebugger.Proofs.Display.Copying
import GuestDebugger.Proofs.Display.Operations
import GuestDebugger.Proofs.Display.Rectangles
import GuestDebugger.Proofs.Json.Reading
import GuestDebugger.Proofs.Machine.Batch
import GuestDebugger.Proofs.Machine.Frame
import GuestDebugger.Proofs.Machine.Trace
import GuestDebugger.Proofs.Session.BreakSet
import GuestDebugger.Proofs.Session.Counting
import GuestDebugger.Proofs.Session.Engines
import GuestDebugger.Proofs.Session.Entries
import GuestDebugger.Proofs.Session.Execution
import GuestDebugger.Proofs.Session.Exit
import GuestDebugger.Proofs.Session.Operations
import GuestDebugger.Proofs.Session.SingleStepping
import GuestDebugger.Registers
import GuestDebugger.Session.Basic
import GuestDebugger.Session.State
import GuestDebugger.Session.Turn
import GuestDebugger.Settings
import GuestDebugger.Sink
import GuestDebugger.Sink.Lemmas
import GuestDebugger.Text.Blank
import GuestDebugger.Text.CodeRanges
import GuestDebugger.Text.Hex
import GuestDebugger.Text.Lemmas
import GuestDebugger.Text.Lines
import GuestDebugger.Text.LowerCase
import GuestDebugger.Text.LowerCaseTable
import GuestDebugger.Text.Numeral
import GuestDebugger.Text.Quoted
import GuestDebugger.Text.Unprintable
import GuestDebugger.Text.Utf8
import GuestDebugger.Text.Words
import GuestDebugger.Proofs.Display.Handles
import GuestDebugger.Proofs.Machine.Output
import GuestDebugger.Proofs.Session.Output
import GuestDebugger.Proofs.Adapter.Instants
import GuestDebugger.Proofs.Adapter.Consistency
import GuestDebugger.Proofs.Adapter.Reporting
import GuestDebugger.Proofs.Adapter.Forwarding
import GuestDebugger.Proofs.Adapter.Stopping
import GuestDebugger.Proofs.Adapter.Responses
import GuestDebugger.Proofs.Display.Failures
import GuestDebugger.Proofs.Machine.Independence
import GuestDebugger.Proofs.Session.Faults
import GuestDebugger.Proofs.Session.Paces
import GuestDebugger.Proofs.Prompt.Layout
import GuestDebugger.Proofs.Prompt.Transcript
import GuestDebugger.Proofs.Adapter.Numbering
import GuestDebugger.Proofs.Adapter.Streams
import GuestDebugger.Proofs.Session.BreakpointStops
import GuestDebugger.Proofs.Session.RunningTo
import GuestDebugger.Proofs.Session.StopRequests
import GuestDebugger.Proofs.Machine.Steps
import GuestDebugger.Proofs.Adapter.Sessions
import GuestDebugger.Proofs.Adapter.Replacing
import GuestDebugger.Proofs.Session.Adapting
import GuestDebugger.Proofs.Display.Filling
import GuestDebugger.Proofs.Machine.Drawing
import GuestDebugger.Proofs.Session.Invariants
import GuestDebugger.Proofs.Session.Drawing
import GuestDebugger.Breakpoints.Lemmas
import GuestDebugger.Proofs.Breakpoints.Histories
import GuestDebugger.Proofs.Adapter.Unchanged
import GuestDebugger.Proofs.Prompt.Effects
import GuestDebugger.Proofs.Prompt.PassedOver
import GuestDebugger.Proofs.Listing.Numbers
import GuestDebugger.Proofs.Listing.Words
import GuestDebugger.Proofs.Listing.RoundTrip
import GuestDebugger.Labels.Lemmas
import GuestDebugger.Proofs.Labels.Files
import GuestDebugger.Proofs.Labels.Histories
import GuestDebugger.Proofs.Listing.Comments
import GuestDebugger.Proofs.Listing.Instructions
import GuestDebugger.Proofs.Listing.Lines
import GuestDebugger.Proofs.Listing.Acceptance
import GuestDebugger.Proofs.Labels.Describing
import GuestDebugger.Proofs.Display.Isolation
import GuestDebugger.Proofs.Session.Waiting
import GuestDebugger.Proofs.Prompt.Actions
import GuestDebugger.Proofs.Prompt.CutShort
import GuestDebugger.Proofs.Prompt.MemoryDump
import GuestDebugger.Proofs.Machine.Countdown
import GuestDebugger.Proofs.Session.Countdown
import GuestDebugger.Proofs.Host.Decoding
import GuestDebugger.Proofs.Host.Output
import GuestDebugger.Proofs.Address.Grammar
import GuestDebugger.Proofs.Adapter.References
import GuestDebugger.Proofs.Prompt.Typing
import GuestDebugger.Proofs.Machine.FallThrough
