import OvnApi.Lib.Prog
import OvnApi.Lib.Deadline
import OvnApi.Lib.Transition
import OvnApi.Lib.Float
import OvnApi.Lib.KeyedTable
import OvnApi.Lib.Counter
import OvnApi.Lib.UniqueIndex
import OvnApi.Lib.Occurrence
import OvnApi.Lib.Collect
import OvnApi.Lib.Mailbox
import OvnApi.Lib.Threads
import OvnApi.Lib.Crew
import OvnApi.Lib.Json
import OvnApi.Lib.Exposition
import OvnApi.Lib.Scan
import OvnApi.Lib.Regex
import OvnApi.Core.Python
import OvnApi.Core.Uuid
import OvnApi.Core.Numerals
import OvnApi.Core.Command
import OvnApi.Traces.Models
import OvnApi.Traces.Idl
import OvnApi.Traces.Evidence
import OvnApi.Traces.Build
import OvnApi.Traces.Execute
import OvnApi.Traces.Script
import OvnApi.Traces.Verdict
import OvnApi.Traces.Latency
import OvnApi.Traces.Addresses
import OvnApi.Traces.Polling
import OvnApi.Store.Table
import OvnApi.Store.Codec
import OvnApi.Store.Faithful
import OvnApi.Store.Retention
import OvnApi.Northbound.Database
import OvnApi.Northbound.Nbctl
import OvnApi.Northbound.Effects
import OvnApi.Northbound.Footprint
import OvnApi.Northbound.Jobs
import OvnApi.Northbound.Work
import OvnApi.Northbound.Residue
import OvnApi.Northbound.Concurrent
import OvnApi.Northbound.Attempted
import OvnApi.Northbound.OwnRow
import OvnApi.Northbound.Foreign
import OvnApi.Northbound.Harmless
import OvnApi.Manager.System
import OvnApi.Manager.Lifecycle
import OvnApi.Manager.Workers
import OvnApi.Manager.Survival
import OvnApi.Manager.Finality
import OvnApi.Manager.Stages
import OvnApi.Manager.Updates
import OvnApi.Manager.Consistency
import OvnApi.Manager.Delivery
import OvnApi.Manager.Readable
import OvnApi.Manager.Retention
import OvnApi.Scheduled.Profiles
import OvnApi.Scheduled.Service
import OvnApi.Scheduled.Reload
import OvnApi.Scheduled.System
import OvnApi.Scheduled.Accounting
import OvnApi.Scheduled.Fairness
import OvnApi.Scheduled.Names
import OvnApi.Scheduled.Continuity
import OvnApi.Scheduled.Targets
import OvnApi.Monitor.Exposition
import OvnApi.Monitor.Models
import OvnApi.Monitor.ApiMetrics
import OvnApi.Monitor.Page
import OvnApi.Monitor.Series
import OvnApi.Monitor.Refresh
import OvnApi.Monitor.Freshness
import OvnApi.Monitor.Stream
import OvnApi.Monitor.Overflow
import OvnApi.Monitor.Monotone
import OvnApi.Monitor.Poller
import OvnApi.Monitor.Live
import OvnApi.Monitor.Cpu
import OvnApi.Monitor.Middleware
import OvnApi.Sampler.Procfs
import OvnApi.Sampler.Snapshot
import OvnApi.Sampler.Readings
import OvnApi.Sampler.Conservation
import OvnApi.Sampler.StatLine
import OvnApi.Sampler.HostCpu
import OvnApi.Sampler.Groups
import OvnApi.Sampler.Independence
import OvnApi.OneWorker
import OvnApi.Flows.Origin
import OvnApi.Flows.Listing
import OvnApi.Chassis.Service
import OvnApi.Chassis.Views
import OvnApi.Ovsdb.Client
import OvnApi.Ovsdb.Synchronised
import OvnApi.Datapath.Parser
import OvnApi.Datapath.Printer
import OvnApi.Datapath.ReadBack
import OvnApi.Lib.Utf8
import OvnApi.Lib.Yields
import OvnApi.Lib.Dict
import OvnApi.Lib.Difference
import OvnApi.Lib.Regions
import OvnApi.Ovs.Value
import OvnApi.Ovs.Parser
import OvnApi.Ovs.Printer
import OvnApi.Ovs.Rpc
import OvnApi.Ovs.Reconnect
import OvnApi.Ovs.Session
import OvnApi.Ovs.Datum
import OvnApi.Ovs.Tables
import OvnApi.Ovs.Monitor
import OvnApi.Ovs.Replica
import OvnApi.Ovs.Idl
import OvnApi.Ovs.Synchrony
import OvnApi.Ovs.Snapshot
import OvnApi.Ovs.Coherence
import OvnApi.Ovs.Convergence
