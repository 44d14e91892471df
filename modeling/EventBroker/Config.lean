/-
The configuration of a broker.
-/
import EventBroker.Json.Datum

namespace EventBroker

/-- where subscription records are kept -/
inductive StorageConfig where
  | memory
  | fileSystem (path : String)
  deriving DecidableEq

structure BrokerConfig where
  storage : StorageConfig := .memory
  /-- records that a file store keeps at hand -/
  storeCacheSize : Nat := 1000
  schedulerWorkers : Nat := 2
  ingestWorkers : Nat := 2
  /-- messages that wait before a submission has to -/
  ingestQueueSize : Nat := 1024
  /-- the first part of synthesized topic names -/
  amqpBasePrefix : String := "herald"
  /-- stands in for an empty AMQP location -/
  amqpDefaultBroker : String := "localhost"
  deriving DecidableEq

namespace StorageConfig

/-- the kind of storage, and what is left of the datum beside it -/
def tagged? : Datum → Option (String × Datum)
  | .seq (d :: ds) => d.text?.map fun k => (k, .seq ds)
  | .map es =>
    match es.filter fun e => e.1.text? == some "kind" with
    | [e] => e.2.text?.map fun k => (k, .map (es.filter fun e => e.1.text? != some "kind"))
    | _ => none
  | _ => none

def ofDatum? (d : Datum) : Option StorageConfig := do
  if !d.whole then none
  let (kind, rest) ← tagged? d
  match kind with
  | "memory" => if rest.items?.getD [] matches [] then return .memory else none
  | "file_system" => return .fileSystem (← (← rest.fields? ["path"]).need 0 Datum.text?)
  | _ => none

end StorageConfig

namespace BrokerConfig

/-- missing fields take their defaults -/
def ofDatum? (d : Datum) : Option BrokerConfig := do
  let base : BrokerConfig := {}
  let f ← d.fields? ["storage", "store_cache_size", "scheduler_workers", "ingest_workers", "ingest_queue_size",
    "amqp_base_prefix", "amqp_default_broker"]
  return {
    storage := ← f.orElse 0 StorageConfig.ofDatum? base.storage
    storeCacheSize := ← f.orElse 1 Datum.word? base.storeCacheSize
    schedulerWorkers := ← f.orElse 2 Datum.word? base.schedulerWorkers
    ingestWorkers := ← f.orElse 3 Datum.word? base.ingestWorkers
    ingestQueueSize := ← f.orElse 4 Datum.word? base.ingestQueueSize
    amqpBasePrefix := ← f.orElse 5 Datum.text? base.amqpBasePrefix
    amqpDefaultBroker := ← f.orElse 6 Datum.text? base.amqpDefaultBroker }

/-- the configuration that a JSON text holds -/
def ofText? (s : String) : Option BrokerConfig := Json.datumOfText? s >>= ofDatum?

end BrokerConfig

end EventBroker
