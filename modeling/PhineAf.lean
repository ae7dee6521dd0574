import PhineAf.Lib.System
import PhineAf.Lib.Index
import PhineAf.Lib.Text
import PhineAf.Lib.Pattern
import PhineAf.Lib.Json
import PhineAf.Lib.Schema
import PhineAf.Common
import PhineAf.Ue.Key
import PhineAf.Ue.State
import PhineAf.Ue.Store
import PhineAf.Ue.Coherence
import PhineAf.Ue.Indices
import PhineAf.Lib.Lock
import PhineAf.Lib.Interleave
import PhineAf.Ue.Locking
import PhineAf.Qod.Session
import PhineAf.Qod.Store
import PhineAf.Qod.Manager
import PhineAf.Qod.Operation
import PhineAf.Qod.Lifecycle
import PhineAf.Qod.Conflict
import PhineAf.Qod.Interleaving
import PhineAf.Qod.Exchange
import PhineAf.Pcf.Request
import PhineAf.Qod.PcfMapping
import PhineAf.Qod.Expiry
import PhineAf.Lib.MultiIndex
import PhineAf.Qod.SupiIndex
import PhineAf.Qod.Isolation
import PhineAf.Qod.Notice
import PhineAf.Lib.Holding
import PhineAf.Policy.Manager
import PhineAf.Policy.Agreement
import PhineAf.Policy.Rollback
import PhineAf.Pcf.Handler
import PhineAf.Lib.Inverse
import PhineAf.Pcf.SessionMap
import PhineAf.Pcf.Deletion
import PhineAf.Ue.Association
import PhineAf.Qod.Association
import PhineAf.Lib.Keyed
import PhineAf.Ue.Combination
import PhineAf.Qod.UeUpdate
import PhineAf.Qod.Termination
import PhineAf.Qod.Extension
import PhineAf.Pcf.Flow
import PhineAf.Pcf.FlowRule
import PhineAf.Pcf.Validation
import PhineAf.Pcf.Ipv6
import PhineAf.Pcf.Soundness
import PhineAf.Pcf.AppSession
import PhineAf.Qod.Atomicity
import PhineAf.Qod.Delivery
import PhineAf.Adapter.Client
import PhineAf.Adapter.RoundTrip
import PhineAf.Adapter.Creation
import PhineAf.Qod.DeviceRule
import PhineAf.Qod.Matching
import PhineAf.Subscription.Filter
import PhineAf.Subscription.Isolation
import PhineAf.Qod.Cancellation
import PhineAf.Pcf.PccRoundTrip
import PhineAf.Pcf.RuleCache
import PhineAf.Rest.PathParams
import PhineAf.Qod.TokenExpiry
import PhineAf.Pcf.Location
import PhineAf.Adapter.Tracking
import PhineAf.Ue.KeyIdentity
import PhineAf.Ue.Lookup
import PhineAf.Ue.Duplicates
import PhineAf.Ue.Resolution
import PhineAf.Lib.Address
import PhineAf.Ue.AddressFormat
import PhineAf.Lib.Service
import PhineAf.Lib.Retry
import PhineAf.Subscription.Lifecycle
import PhineAf.Core.Router
import PhineAf.Policy.Requests
import PhineAf.Policy.Replies
import PhineAf.Pcf.Dispatch
import PhineAf.Policy.Unserved
import PhineAf.Qod.Requests
import PhineAf.Qod.Noninterference
import PhineAf.Qod.Replies
import PhineAf.Rest.Response
import PhineAf.Adapter.Sessions
import PhineAf.Adapter.HttpClient
import PhineAf.Adapter.Transports
import PhineAf.Adapter.Retrieval
import PhineAf.Adapter.Extension
import PhineAf.Lib.Inevitable
import PhineAf.Runtime.Lifecycle
import PhineAf.Runtime.Shutdown
import PhineAf.Runtime.Release
import PhineAf.Core.Orchestrator
import PhineAf.Northbound.Handlers
import PhineAf.Northbound.Api
import PhineAf.Northbound.Subscriptions
import PhineAf.Northbound.Answers
import PhineAf.Northbound.Accounting
import PhineAf.Northbound.Policies
import PhineAf.Pcf.HandlerSessions
import PhineAf.Qod.Undelivered
import PhineAf.Qod.CheckedSinks
import PhineAf.Qod.Handover
