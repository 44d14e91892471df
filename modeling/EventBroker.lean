/-
A broker that passes events on to subscribers.

A subscription names a filter, a way of delivery and, maybe, an end. The broker keeps subscriptions in a store, in memory
or in record files, hands every message to those whose filter lets it pass, and ends each of them when its time comes or
when it is told to.

- `EventBroker.Manager` and what it imports is the broker itself: stores, filters, delivery, the scheduler of ends.
  `EventBroker.Ingest` is the pool of workers that feeds messages to it.
- `EventBroker.Proofs` is the theory of these parts, one folder for each: what holds in every run, whatever fails.
-/
import EventBroker.Checksum
import EventBroker.Config
import EventBroker.Datum
import EventBroker.Delivery.Address
import EventBroker.Delivery.Endpoint
import EventBroker.Delivery.Hub
import EventBroker.Delivery.Inbox
import EventBroker.Delivery.Provider
import EventBroker.Error
import EventBroker.Filter.Engine
import EventBroker.Filter.Predicate
import EventBroker.Ingest
import EventBroker.Json.Basic
import EventBroker.Json.Datum
import EventBroker.Json.Numeral
import EventBroker.Json.Printer
import EventBroker.Json.Shortest
import EventBroker.Json.Tree
import EventBroker.Manager
import EventBroker.Message
import EventBroker.MessagePack.Reader
import EventBroker.MessagePack.Writer
import EventBroker.Proofs.Checksum
import EventBroker.Proofs.Delivery.Address
import EventBroker.Proofs.Delivery.Alike
import EventBroker.Proofs.Delivery.Depot
import EventBroker.Proofs.Delivery.Frame
import EventBroker.Proofs.Delivery.Journal
import EventBroker.Proofs.Delivery.Outlets
import EventBroker.Proofs.Delivery.Queues
import EventBroker.Proofs.Delivery.Topic
import EventBroker.Proofs.Delivery.Wiring
import EventBroker.Proofs.Filter.Dispatch
import EventBroker.Proofs.Filter.Encoding
import EventBroker.Proofs.Ingest.Account
import EventBroker.Proofs.Ingest.Answers
import EventBroker.Proofs.Ingest.Drain
import EventBroker.Proofs.Ingest.History
import EventBroker.Proofs.Ingest.Liveness
import EventBroker.Proofs.Ingest.Moves
import EventBroker.Proofs.Manager.Agreement
import EventBroker.Proofs.Manager.Broker
import EventBroker.Proofs.Manager.Custody
import EventBroker.Proofs.Manager.Dormant
import EventBroker.Proofs.Manager.Expiry
import EventBroker.Proofs.Manager.Failsafe
import EventBroker.Proofs.Manager.FlakyScene
import EventBroker.Proofs.Manager.Harm
import EventBroker.Proofs.Manager.Misfits
import EventBroker.Proofs.Manager.Mortality
import EventBroker.Proofs.Manager.Operations
import EventBroker.Proofs.Manager.Picture
import EventBroker.Proofs.Manager.Release
import EventBroker.Proofs.Manager.Renewal
import EventBroker.Proofs.Manager.Restart
import EventBroker.Proofs.Manager.Restore
import EventBroker.Proofs.Manager.Revival
import EventBroker.Proofs.Manager.Scene
import EventBroker.Proofs.Manager.Settled
import EventBroker.Proofs.Manager.Silence
import EventBroker.Proofs.Manager.Slips
import EventBroker.Proofs.Manager.Stable
import EventBroker.Proofs.Manager.Subscribe
import EventBroker.Proofs.Manager.Unsubscribe
import EventBroker.Proofs.Manager.Wiring
import EventBroker.Proofs.MessagePack.RoundTrip
import EventBroker.Proofs.Scheduler.Compaction
import EventBroker.Proofs.Scheduler.Prompt
import EventBroker.Proofs.Scheduler.Timer
import EventBroker.Proofs.Scheduler.Timetable
import EventBroker.Proofs.Store.Atomic
import EventBroker.Proofs.Store.Bounds
import EventBroker.Proofs.Store.Confined
import EventBroker.Proofs.Store.Damage
import EventBroker.Proofs.Store.Disk
import EventBroker.Proofs.Store.Enumeration
import EventBroker.Proofs.Store.Faithful
import EventBroker.Proofs.Store.File
import EventBroker.Proofs.Store.Flaky
import EventBroker.Proofs.Store.Frame
import EventBroker.Proofs.Store.Harm
import EventBroker.Proofs.Store.Keyed
import EventBroker.Proofs.Store.Limits
import EventBroker.Proofs.Store.Loyal
import EventBroker.Proofs.Store.Names
import EventBroker.Proofs.Store.Own
import EventBroker.Proofs.Store.RecordFile
import EventBroker.Proofs.Store.RecordOrder
import EventBroker.Proofs.Store.Refinement
import EventBroker.Proofs.Store.Renewal
import EventBroker.Proofs.Store.Reopen
import EventBroker.Proofs.Store.Steady
import EventBroker.Proofs.Subscription.Decoded
import EventBroker.Proofs.Subscription.Record
import EventBroker.Proofs.Time
import EventBroker.Proofs.Time.Shift
import EventBroker.Proofs.Url.Authority
import EventBroker.Regex.Class
import EventBroker.Regex.Cursor
import EventBroker.Regex.Expression
import EventBroker.Regex.Footprint
import EventBroker.Regex.Pattern
import EventBroker.Regex.Program
import EventBroker.Regex.Search
import EventBroker.Scheduler
import EventBroker.Store.Any
import EventBroker.Store.Basic
import EventBroker.Store.Cache
import EventBroker.Store.Disk
import EventBroker.Store.Faulty
import EventBroker.Store.File
import EventBroker.Store.Memory
import EventBroker.Store.RecordFile
import EventBroker.Subscription.Basic
import EventBroker.Subscription.Options
import EventBroker.Subscription.Record
import EventBroker.Table
import EventBroker.Text.Blank
import EventBroker.Text.Hex
import EventBroker.Text.Quoted
import EventBroker.Text.Utf8
import EventBroker.Time
import EventBroker.Transform
import EventBroker.Unicode.Category
import EventBroker.Unicode.CodeSet
import EventBroker.Unicode.Data.Age
import EventBroker.Unicode.Data.CaseFold
import EventBroker.Unicode.Data.Category
import EventBroker.Unicode.Data.Domain
import EventBroker.Unicode.Data.Normalization
import EventBroker.Unicode.Data.Property
import EventBroker.Unicode.Data.Script
import EventBroker.Unicode.Data.Segment
import EventBroker.Unicode.Fold
import EventBroker.Unicode.Normalization
import EventBroker.Unicode.Property
import EventBroker.Url.DomainName
import EventBroker.Url.Error
import EventBroker.Url.Host
import EventBroker.Url.Parse
import EventBroker.Url.Punycode
import EventBroker.Uuid
