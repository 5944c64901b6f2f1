import TableLoader.LogSettings
import TableLoader.Main
import TableLoader.Stream
import TableLoader.Proofs.Partition.Batching
import TableLoader.Proofs.Partition.Failure
import TableLoader.Proofs.Sink.Acceptance
import TableLoader.Proofs.Sink.ByName
import TableLoader.Proofs.Sink.Connections
import TableLoader.Proofs.Sink.Fit
import TableLoader.Proofs.Sink.Gate
import TableLoader.Proofs.Sink.Reconfigured
import TableLoader.Proofs.Statement.Calls
import TableLoader.Proofs.Address.Hosts
import TableLoader.Proofs.Text.Percent
import TableLoader.Proofs.Address.Grammar
import TableLoader.Proofs.Address.Collisions
import TableLoader.Proofs.Sink.Events
import TableLoader.Proofs.Load.Lifecycle
import TableLoader.Proofs.TwoRuns
import TableLoader.Proofs.Load.SecretOptions
import TableLoader.Proofs.Load.Secrets
import TableLoader.Proofs.Sink.Alignment
import TableLoader.Proofs.Sink.HostErrors
import TableLoader.Proofs.FileTree
import TableLoader.Proofs.Partition.Answers
import TableLoader.Proofs.Stream.SameButTimes
import TableLoader.Proofs.Stream.Routing
import TableLoader.Proofs.Statement.Retries
import TableLoader.Proofs.ColumnType.Nesting
import TableLoader.Proofs.Statement.Wrappers
import TableLoader.Proofs.Calendar.Reading
import TableLoader.Proofs.Statement.Defaults
import TableLoader.Proofs.Statement.DateTexts
import TableLoader.Proofs.Sink.Settled
import TableLoader.Proofs.Load.DeclaredOptions
import TableLoader.Proofs.Partition.Guards
import TableLoader.Proofs.Stream.Checkpoints
import TableLoader.Proofs.Sink.AcceptedTypes
import TableLoader.Proofs.Load.ListOptions
import TableLoader.Proofs.Load.IntegerOptions
import TableLoader.Proofs.FileTree.Openable
import TableLoader.Proofs.TimingLog.Records
import TableLoader.Proofs.Parts
