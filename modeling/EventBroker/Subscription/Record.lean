/-
The persistent form of a subscription, as a datum and as JSON.

`SubscriptionRecord.toDatum` writes every field by position; `SubscriptionRecord.ofDatum?` reads what it writes and
records given by field names.
-/
import EventBroker.Subscription.Options
import EventBroker.Datum
import EventBroker.Json.Basic

namespace EventBroker

/-- what is kept of a subscription: its id, its options and the address its endpoint resolved to -/
structure SubscriptionRecord where
  id : String
  options : SubscribeOptions
  location : String
  deriving DecidableEq

/-! ## As a datum -/

def Timestamp.toDatum (t : Timestamp) : Datum := .int t.micros.toInt

def Timestamp.ofDatum? (d : Datum) : Option Timestamp := d.signedWord?.map Timestamp.mk

def optionDatum {α : Type} (f : α → Datum) : Option α → Datum
  | none => .nil
  | some a => f a

namespace DeliveryParameter

mutual

def toDatum : DeliveryParameter → Datum
  | ⟨space, element, value, children⟩ => .seq [.text space, .text element, .text value, .seq (listToData children)]

def listToData : List DeliveryParameter → List Datum
  | [] => []
  | p :: ps => toDatum p :: listToData ps

end

/-- read a parameter of which at most `depth` more levels of children are looked at -/
def ofDatumWithin : (depth : Nat) → Datum → Option DeliveryParameter
  | 0, _ => none
  | depth + 1, d => do
    let f ← d.fields? ["namespace", "element_name", "value", "children"]
    let space ← f.need 0 Datum.text?
    let element ← f.need 1 Datum.text?
    let value ← f.need 2 Datum.text?
    let children ← f.need 3 fun c => c.items? >>= fun cs => cs.mapM (ofDatumWithin depth)
    return ⟨space, element, value, children⟩

end DeliveryParameter

/-- more levels than any datum that a reader makes -/
def parameterDepth : Nat := 1024

namespace DeliveryDefinition

def toDatum (d : DeliveryDefinition) : Datum :=
  .seq [.text d.identifier, .text d.location, .text d.publicationId,
    .seq (DeliveryParameter.listToData d.parameters), .bool d.useRaw]

def ofDatum? (d : Datum) : Option DeliveryDefinition := do
  let f ← d.fields? ["identifier", "location", "publication_id", "parameters", "use_raw"]
  let identifier ← f.need 0 Datum.text?
  let location ← f.need 1 Datum.text?
  let publicationId ← f.need 2 Datum.text?
  let parameters ← f.need 3 fun p => p.items? >>= fun ps => ps.mapM (DeliveryParameter.ofDatumWithin parameterDepth)
  let useRaw ← f.orElse 4 Datum.bool? false
  return ⟨identifier, location, publicationId, parameters, useRaw⟩

end DeliveryDefinition

namespace ParameterMap

def toDatum (m : ParameterMap) : Datum :=
  .map (m.entries.map fun e => (.text e.1, .text e.2))

/-- an entry of two texts -/
def entryOfData? (e : Datum × Datum) : Option (String × String) := do
  return ((← e.1.text?), (← e.2.text?))

def ofDatum? : Datum → Option ParameterMap
  | .map es => (es.mapM entryOfData?).map ofList
  | _ => none

end ParameterMap

namespace SubscribeOptions

def toDatum (o : SubscribeOptions) : Datum :=
  .seq [.text o.publicationIdentifier, optionDatum Timestamp.toDatum o.terminationTime,
    optionDatum .text o.filterExpression, optionDatum .text o.filterLanguage,
    optionDatum DeliveryDefinition.toDatum o.delivery, o.deliveryParameters.toDatum, optionDatum .text o.contentType]

def ofDatum? (d : Datum) : Option SubscribeOptions := do
  let f ← d.fields? ["publication_identifier", "termination_time", "filter_expression", "filter_language_id",
    "delivery_definition", "delivery_parameters", "content_type"]
  let publicationIdentifier ← f.need 0 Datum.text?
  let terminationTime ← f.optional 1 Timestamp.ofDatum?
  let filterExpression ← f.optional 2 Datum.text?
  let filterLanguage ← f.optional 3 Datum.text?
  let delivery ← f.optional 4 DeliveryDefinition.ofDatum?
  let deliveryParameters ← f.need 5 ParameterMap.ofDatum?
  let contentType ← f.optional 6 Datum.text?
  return ⟨publicationIdentifier, terminationTime, filterExpression, filterLanguage, delivery, deliveryParameters,
    contentType⟩

end SubscribeOptions

namespace SubscriptionRecord

def toDatum (r : SubscriptionRecord) : Datum :=
  .seq [.text r.id, r.options.toDatum, .text r.location]

def ofDatum? (d : Datum) : Option SubscriptionRecord := do
  let f ← d.fields? ["id", "options", "endpoint_location"]
  let id ← f.need 0 Datum.text?
  let options ← f.need 1 SubscribeOptions.ofDatum?
  let location ← f.need 2 Datum.text?
  return ⟨id, options, location⟩

end SubscriptionRecord

/-! ## As JSON -/

open Json (Value)

def optionJson {α : Type} (f : α → Value) : Option α → Value
  | none => .null
  | some a => f a

def Timestamp.toJson (t : Timestamp) : Value := .int t.micros.toInt

namespace DeliveryParameter

mutual

def toJson : DeliveryParameter → Value
  | ⟨space, element, value, children⟩ => .ofFields [("namespace", .text space), ("element_name", .text element),
    ("value", .text value), ("children", .array (listToJson children))]

def listToJson : List DeliveryParameter → List Value
  | [] => []
  | p :: ps => toJson p :: listToJson ps

end

end DeliveryParameter

def DeliveryDefinition.toJson (d : DeliveryDefinition) : Value :=
  .ofFields [("identifier", .text d.identifier), ("location", .text d.location),
    ("publication_id", .text d.publicationId), ("parameters", .array (DeliveryParameter.listToJson d.parameters)),
    ("use_raw", .bool d.useRaw)]

def SubscribeOptions.toJson (o : SubscribeOptions) : Value :=
  .ofFields [("publication_identifier", .text o.publicationIdentifier),
    ("termination_time", optionJson Timestamp.toJson o.terminationTime),
    ("filter_expression", optionJson .text o.filterExpression),
    ("filter_language_id", optionJson .text o.filterLanguage),
    ("delivery_definition", optionJson DeliveryDefinition.toJson o.delivery),
    ("delivery_parameters", .ofFields (o.deliveryParameters.entries.map fun e => (e.1, .text e.2))),
    ("content_type", optionJson .text o.contentType)]

def SubscriptionRecord.toJson (r : SubscriptionRecord) : Value :=
  .ofFields [("id", .text r.id), ("options", r.options.toJson), ("endpoint_location", .text r.location)]

end EventBroker
