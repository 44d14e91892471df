/-
The ways a broker operation fails.

An error is a cause with the facts that belong to it; `BrokerError.message` puts it into words. Where the words come
from outside (the file system, a parser) the cause holds `Detail.foreign`, and the error has no message of its own.
-/
import EventBroker.Text.Quoted

namespace EventBroker

open EventBroker.Text

/-- a text of the broker's own, or the word of something outside it -/
inductive Detail where
  | text (s : String)
  | foreign
  deriving DecidableEq

def Detail.words? : Detail → Option String
  | .text s => some s
  | .foreign => none

inductive BrokerError where
  | unknownSubscription (id : String)
  | unknownTerminatable (id : String)
  | unsupportedDelivery (reason : Detail)
  | filterInstantiation (reason : Detail)
  | transformation (reason : String)
  | storage (reason : Detail)
  | serialization (reason : Detail)
  | deserialization (reason : Detail)
  | invalidFormat (reason : String)
  | checksumMismatch (expected got : UInt32)
  | locked
  | invalidSubscriptionId (id : String)
  | ruleAlreadyRegistered (id : String)
  | delivery (reason : String)
  | endpointDestroyed (location : String)
  | schedulerShutdown
  | spawn (reason : String)
  | ingestClosed
  | unsubscribe (failures : List BrokerError)

namespace BrokerError

/-- the name of the kind of failure -/
def kind : BrokerError → String
  | unknownSubscription _ => "UnknownSubscription"
  | unknownTerminatable _ => "UnknownTerminatable"
  | unsupportedDelivery _ => "UnsupportedDeliveryDefinition"
  | filterInstantiation _ => "FilterInstantiation"
  | transformation _ => "Transformation"
  | storage _ => "Storage"
  | serialization _ => "Serialization"
  | deserialization _ => "Deserialization"
  | invalidFormat _ => "InvalidFormat"
  | checksumMismatch _ _ => "ChecksumMismatch"
  | locked => "Locked"
  | invalidSubscriptionId _ => "InvalidSubscriptionId"
  | ruleAlreadyRegistered _ => "RuleAlreadyRegistered"
  | delivery _ => "Delivery"
  | endpointDestroyed _ => "EndpointDestroyed"
  | schedulerShutdown => "SchedulerShutdown"
  | spawn _ => "Spawn"
  | ingestClosed => "IngestClosed"
  | unsubscribe _ => "Unsubscribe"

mutual

/-- the failure in words, unless part of the words is foreign -/
def message : BrokerError → Option String
  | unknownSubscription id => some ("Unknown subscription: " ++ id)
  | unknownTerminatable id => some ("Unknown terminatable: " ++ id)
  | unsupportedDelivery r => r.words?.map ("Unsupported delivery definition: " ++ ·)
  | filterInstantiation r => r.words?.map ("Could not instantiate filter: " ++ ·)
  | transformation r => some ("Could not transform message: " ++ r)
  | storage r => r.words?.map ("Storage error: " ++ ·)
  | serialization r => r.words?.map ("Serialization error: " ++ ·)
  | deserialization r => r.words?.map ("Deserialization error: " ++ ·)
  | invalidFormat r => some ("Invalid record format: " ++ r)
  | checksumMismatch expected got =>
    some ("Checksum mismatch: expected " ++ toString expected ++ ", got " ++ toString got)
  | locked => some "Storage directory is locked by another process"
  | invalidSubscriptionId id => some ("Invalid subscription id: " ++ quoted id)
  | ruleAlreadyRegistered id => some ("A rule is already registered for subscription " ++ id)
  | delivery r => some ("Delivery failed: " ++ r)
  | endpointDestroyed l => some ("Endpoint " ++ l ++ " has been destroyed")
  | schedulerShutdown => some "Termination scheduler has been shut down"
  | spawn r => some ("Could not start worker thread: " ++ r)
  | ingestClosed => some "Ingestion pool is closed"
  | unsubscribe es => (messages es).map fun ms =>
    "Unsubscribe finished with " ++ toString es.length ++ " error(s): " ++ String.intercalate "; " ms

/-- the words of every failure of a list, unless one has none -/
def messages : List BrokerError → Option (List String)
  | [] => some []
  | e :: es => do return (← message e) :: (← messages es)

end

/-- the failure in words, as the reason of another failure -/
def toDetail (e : BrokerError) : Detail :=
  match e.message with
  | some s => .text s
  | none => .foreign

/-- an id is not tracked where it was looked for -/
def isUnknown : BrokerError → Bool
  | unknownSubscription _ | unknownTerminatable _ => true
  | _ => false

end BrokerError

end EventBroker
