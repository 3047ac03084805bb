import PerfTest.Systems.Handles
import PerfTest.Systems.Ledger
import PerfTest.Systems.Programs
import PerfTest.Systems.Combinations
import PerfTest.Systems.Documents
import PerfTest.Systems.Attempts
import PerfTest.Systems.SortedMap
import PerfTest.Producer.Timestamps
import PerfTest.Producer.Confirms
import PerfTest.Producer.ConfirmSteps
import PerfTest.Producer.Tracking
import PerfTest.Producer.Accounting
import PerfTest.Producer.Window
import PerfTest.Producer.Waiting
import PerfTest.Producer.Stale
import PerfTest.Topology.Recovery
import PerfTest.Topology.BestEffort
import PerfTest.Topology.Deletion
import PerfTest.Topology.Rebinding
import PerfTest.Topology.SubRecording
import PerfTest.Topology.Configuration
import PerfTest.Topology.ClientRecording
import PerfTest.Topology.SharedConnections
import PerfTest.Consumer.Subscriptions
import PerfTest.Consumer.SingleSubscription
import PerfTest.Consumer.CurrentName
import PerfTest.Connection.RecoveryFlag
import PerfTest.Connection.BrokersUp
import PerfTest.Producer.MessageLimit
import PerfTest.Consumer.NackMode
import PerfTest.Consumer.Prefetch
import PerfTest.Consumer.Polling
import PerfTest.Consumer.RefreshedNames
import PerfTest.Topology.ReservedExchanges
import PerfTest.Topology.Distribution
import PerfTest.Topology.SelfContained
import PerfTest.Producer.Published
import PerfTest.Producer.StopAnnounced
import PerfTest.Producer.Transactions
import PerfTest.Producer.WithoutFailures
import PerfTest.Metrics.OngoingReports
import PerfTest.Metrics.RateGauges
import PerfTest.Metrics.ScenarioRates
import PerfTest.Metrics.CommandLine
import PerfTest.Scenario.EveryCombination
import PerfTest.Scenario.Leaks
import PerfTest.Completion.CountDown
import PerfTest.Topology.DealtConnections
import PerfTest.Topology.PolledQueues
import PerfTest.Topology.PolledRuns
import PerfTest.Synchronization.Instances
import PerfTest.Java.Strings
import PerfTest.Values.Definitions
import PerfTest.Systems.Schedules
import PerfTest.Values.Schedule
import PerfTest.Values.Period
import PerfTest.Values.Listeners
import PerfTest.Metrics.ExpectedRates
import PerfTest.Metrics.ConcurrentStarts
import PerfTest.Metrics.LatencyHistograms
import PerfTest.Messages.Properties
import PerfTest.Messages.TimeSequence
import PerfTest.Consumer.ForeignMessages
import PerfTest.Consumer.ReceptionLimit
import PerfTest.Consumer.EmptyQueues
import PerfTest.Connection.WaitForBrokers
import PerfTest.Producer.ConfirmWait
import PerfTest.Messages.LocalFiles
import PerfTest.Producer.CreatedFiles
import PerfTest.Values.ByteCapacity
import PerfTest.Values.KeyValuePairs
import PerfTest.Values.StreamArguments
import PerfTest.Values.PublishingInterval
import PerfTest.Connection.RecoveryDelay
import PerfTest.Messages.BodyOptions
import PerfTest.Metrics.Csv
import PerfTest.Limiter.Waiting
import PerfTest.Limiter.SinglePermits
import PerfTest.Limiter.Sleeping
import PerfTest.Completion.ShutdownService
import PerfTest.Completion.Shutdown
import PerfTest.Completion.ThreadPools
import PerfTest.Scenario.Charts
import PerfTest.Scenario.SpecFields
import PerfTest.Producer.SchedulerThreads
import PerfTest.Metrics.FinalSummary
import PerfTest.Values.EnvironmentVariables
import PerfTest.Producer.RoutingKeys
