import Rollout.Lib.RelyGuarantee
import Rollout.Lib.Wire
import Rollout.Lib.Digits
import Rollout.Lib.KV
import Rollout.Core.Errors
import Rollout.Core.Ids
import Rollout.Core.Storage
import Rollout.Lib.Store
import Rollout.Core.Storage
import Rollout.Coordinator.Lease
import Rollout.Coordinator.LeaseSafety
import Rollout.Coordinator.WorkItem
import Rollout.Coordinator.Ledger
import Rollout.Coordinator.Steal
import Rollout.Coordinator.LedgerSystem
import Rollout.Coordinator.LedgerTerminal
import Rollout.Coordinator.LedgerConservation
import Rollout.Coordinator.StealRace
import Rollout.Lib.RowLocks
import Rollout.Storage.Backends
import Rollout.Storage.CasExclusion
import Rollout.Coordinator.PostgresLease
import Rollout.Coordinator.DispatchRace
import Rollout.Batch.State
import Rollout.Batch.System
import Rollout.Batch.Runtime
import Rollout.Batch.DoneAbsorbing
import Rollout.Lib.TxnStore
import Rollout.Storage.Embedded
import Rollout.Training.Algo
import Rollout.Storage.Postgres
import Rollout.Lib.StableSort
import Rollout.Snapshots.Policy
import Rollout.Http.Connector
import Rollout.Lib.Dialogue
import Rollout.Http.Fetch
import Rollout.CloudLocal.Queue
import Rollout.CloudLocal.QueueRestart
import Rollout.Coordinator.Epoch
import Rollout.Coordinator.Replay
import Rollout.CloudLocal.ObjectStore
import Rollout.Lib.Accord
import Rollout.CloudLocal.ObjectVisible
import Rollout.Lib.Embed
import Rollout.Coordinator.Fence
import Rollout.Batch.Scan
import Rollout.Transport.Health
import Rollout.Coordinator.Registry
import Rollout.Coordinator.FailureScan
import Rollout.Coordinator.Heartbeats
import Rollout.Coordinator.FailureEpisodes
import Rollout.Coordinator.Drain
import Rollout.CloudQueue.Adapter
import Rollout.CloudQueue.StaleAck
import Rollout.Lib.Separated
import Rollout.Storage.Notify
import Rollout.Lib.Grouped
import Rollout.Storage.Watch
import Rollout.Storage.WatchOrder
import Rollout.Eval.Job
import Rollout.Eval.OneResult
import Rollout.Batch.Infer
import Rollout.Batch.Provenance
import Rollout.Batch.Scanning
import Rollout.Storage.Reads
import Rollout.Batch.SampleId
import Rollout.Batch.EnqueuedRuns
import Rollout.Coordinator.Busiest
import Rollout.Lib.Session
import Rollout.Coordinator.StealRequest
import Rollout.Coordinator.StealHalf
import Rollout.CloudLocal.QueueCalls
import Rollout.Lib.Fifo
import Rollout.Coordinator.DispatchOrder
import Rollout.Lib.Framed
import Rollout.Lib.Exchange
import Rollout.Plugin.Sidecar
import Rollout.Snapshots.DirTree
import Rollout.Snapshots.TarBuild
import Rollout.Snapshots.TarComplete
import Rollout.Snapshots.TrainState
import Rollout.CloudStore.GcsStream
import Rollout.CloudStore.S3Stream
import Rollout.CloudQueue.FailedAck
import Rollout.Lib.UriRef
import Rollout.Http.Redirect
import Rollout.Lib.PipeWriter
import Rollout.Tool.Launcher
import Rollout.Plugin.Utf8Lossy
import Rollout.Plugin.Manifest
import Rollout.Plugin.Host
import Rollout.Plugin.RewardInput
import Rollout.Lib.Keyed
import Rollout.TextEnv.Env
import Rollout.TextEnv.Replay
import Rollout.Lib.Calendar
import Rollout.Cli.UnixTime
import Rollout.Core.HexText
import Rollout.Coordinator.Timestamps
import Rollout.Batch.Jsonl
import Rollout.Lib.Regex
import Rollout.Lib.RegexLines
import Rollout.Eval.Ifeval
import Rollout.Eval.IfevalAgrees
import Rollout.Batch.Working
import Rollout.Batch.Reruns
import Rollout.Batch.Pool
import Rollout.Batch.PoolWorkers
import Rollout.Batch.Settled
import Rollout.Batch.Attempts
import Rollout.Lib.Mailbox
import Rollout.Vllm.Engine
import Rollout.Vllm.Backend
import Rollout.Plugin.Pyo3
import Rollout.Lib.Sequence
import Rollout.Tool.Sandbox
import Rollout.Tool.Harness
import Rollout.Lib.Hub
import Rollout.Transport.Control
