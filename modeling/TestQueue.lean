import TestQueue.Client.Basic
import TestQueue.Client.Call
import TestQueue.Client.Error
import TestQueue.Client.WorkerRun
import TestQueue.Config.Error
import TestQueue.Config.Reader
import TestQueue.Http.Line
import TestQueue.Http.MediaType
import TestQueue.Http.Message
import TestQueue.Http.Route
import TestQueue.Http.Service
import TestQueue.Identifier
import TestQueue.Json.Decode
import TestQueue.Json.Number
import TestQueue.Json.Printer
import TestQueue.Json.Reader
import TestQueue.Json.Value
import TestQueue.Kdl.Document
import TestQueue.Kdl.Number
import TestQueue.Kdl.Reader
import TestQueue.Kdl.Space
import TestQueue.Kdl.Text
import TestQueue.Main
import TestQueue.Net.Address
import TestQueue.Net.AddressReader
import TestQueue.Net.Domain
import TestQueue.Net.Domain.Letter
import TestQueue.Net.Host
import TestQueue.Net.Percent
import TestQueue.Net.Punycode
import TestQueue.Net.SocketAddress
import TestQueue.Net.Url
import TestQueue.Numeric.Binary64
import TestQueue.Numeric.Decimal
import TestQueue.Numeric.Rounding
import TestQueue.Ordered
import TestQueue.Queue.BucketQueue
import TestQueue.Queue.Error
import TestQueue.Queue.JobQueue
import TestQueue.Server.Command
import TestQueue.Server.CommandLine
import TestQueue.Server.Config
import TestQueue.Server.Dispatcher
import TestQueue.Server.Policy
import TestQueue.Server.Termination
import TestQueue.Server.Timers
import TestQueue.Table
import TestQueue.Text.Blank
import TestQueue.Text.Hex
import TestQueue.Text.Split
import TestQueue.Time.Calendar
import TestQueue.Time.Clock
import TestQueue.Time.Instant
import TestQueue.Time.Span
import TestQueue.Time.Timestamp
import TestQueue.Unicode.Composition
import TestQueue.Unicode.Direction
import TestQueue.Unicode.Joining
import TestQueue.Unicode.Mark
import TestQueue.Unicode.Runs
import TestQueue.Wire.Answer
import TestQueue.Wire.Bucket
import TestQueue.Wire.Config
import TestQueue.Wire.Message
import TestQueue.Wire.Text
import TestQueue.Wire.Worker
import TestQueue.Work.Bucket
import TestQueue.Work.Job
import TestQueue.Work.Message
import TestQueue.Work.Result
import TestQueue.Work.Split
import TestQueue.Worker.Record
import TestQueue.Worker.Roster
import TestQueue.Proofs.BucketQueue.HandOuts
import TestQueue.Proofs.BucketQueue.Operations
import TestQueue.Proofs.BucketQueue.Routing
import TestQueue.Proofs.BucketQueue.Sound
import TestQueue.Proofs.Effect
import TestQueue.Proofs.History
import TestQueue.Proofs.Identifier
import TestQueue.Proofs.JobQueue.Moves
import TestQueue.Proofs.JobQueue.Record
import TestQueue.Proofs.JobQueue.Sound
import TestQueue.Proofs.Ordered
import TestQueue.Proofs.Roster
import TestQueue.Proofs.Split
import TestQueue.Proofs.Sweep
import TestQueue.Proofs.Table
import TestQueue.Proofs.BucketQueue.Index
import TestQueue.Proofs.Reachable
import TestQueue.Proofs.Ownership
import TestQueue.Proofs.Agreement
import TestQueue.Proofs.JobEffect
import TestQueue.Proofs.Ledger
import TestQueue.Proofs.Location
import TestQueue.Proofs.JobQueue.Tests
import TestQueue.Proofs.Conservation
import TestQueue.Proofs.Acceptance
import TestQueue.Proofs.BucketQueue.Decision
import TestQueue.Proofs.BucketQueue.Run
import TestQueue.Proofs.BucketQueue.Rearrangement
import TestQueue.Proofs.Delivery
import TestQueue.Proofs.Redelivery
import TestQueue.Proofs.Labels
import TestQueue.Proofs.LateResult
import TestQueue.Proofs.InPlace
import TestQueue.Proofs.Refusal
import TestQueue.Proofs.JobQueue.Budget
import TestQueue.Proofs.BucketQueue.Budget
import TestQueue.Proofs.Budget
import TestQueue.Proofs.Heartbeat
import TestQueue.Proofs.Depletion
import TestQueue.Proofs.Recovery
import TestQueue.Proofs.BucketQueue.Fresh
import TestQueue.Proofs.BucketQueue.Deletion
import TestQueue.Proofs.BucketQueue.Exits
import TestQueue.Proofs.BucketQueue.Separation
import TestQueue.Proofs.BucketQueue.Exchange
import TestQueue.Proofs.Separation
import TestQueue.Proofs.Liveness
import TestQueue.Proofs.Shutdown
import TestQueue.Proofs.Finished
import TestQueue.Proofs.Replies
import TestQueue.Proofs.Fleet
import TestQueue.Proofs.FleetAccounts
import TestQueue.Proofs.JobQueue.Residual
import TestQueue.Proofs.JobQueue.Run
import TestQueue.Proofs.JobQueue.DispatchOrder
import TestQueue.Proofs.JobQueue.Progress
import TestQueue.Proofs.JobQueue.Attempts
import TestQueue.Proofs.Attempts
import TestQueue.Proofs.Percent
import TestQueue.Proofs.UrlPath
import TestQueue.Proofs.UrlReference
import TestQueue.Proofs.Routes
import TestQueue.Proofs.Addressing
import TestQueue.Proofs.Registration
import TestQueue.Proofs.Settings
import TestQueue.Proofs.Calendar
import TestQueue.Proofs.Timestamp
import TestQueue.Proofs.SocketAddress
import TestQueue.Proofs.Wire.Record
import TestQueue.Proofs.Wire.Value
import TestQueue.Proofs.Wire.Work
import TestQueue.Proofs.Wire.Message
import TestQueue.Proofs.Wire.RoundTrip
import TestQueue.Proofs.Partition
import TestQueue.Proofs.Progressive
import TestQueue.Proofs.SkippedSweep
import TestQueue.Proofs.Idleness
import TestQueue.Proofs.Course
