/-
Subscriptions, which tie options to an endpoint.
-/
import EventBroker.Delivery.Endpoint
import EventBroker.Subscription.Record
import EventBroker.Text.Quoted

namespace EventBroker

structure Subscription where
  id : String
  options : SubscribeOptions
  endpoint : Endpoint
  deriving DecidableEq

namespace Subscription

/-- when the subscription ends, if it does -/
def terminationTime (s : Subscription) : Option Timestamp := s.options.terminationTime

def location (s : Subscription) : String := s.endpoint.location

/-- the same subscription with another end -/
def renewed (s : Subscription) (t : Timestamp) : Subscription :=
  { s with options := { s.options with terminationTime := some t } }

/-- what is kept of it -/
def toRecord (s : Subscription) : SubscriptionRecord := ⟨s.id, s.options, s.location⟩

/-- what can be told from a record; the endpoint is a mere address -/
def ofRecord (r : SubscriptionRecord) : Subscription := ⟨r.id, r.options, .detached r.location⟩

/-- two subscriptions agree on all that is kept of them -/
def agrees (s t : Subscription) : Bool := decide (s.toRecord = t.toRecord)

/-- the JSON form of a subscription in use -/
def toJson (s : Subscription) : Json.Value :=
  .ofFields [("id", .text s.id), ("options", s.options.toJson), ("location", .text s.location)]

end Subscription

/-! ## The form shown to a programmer -/

open Text (quoted)

/-- a name with fields in braces -/
def describeFields (name : String) (fields : List (String × String)) : String :=
  name ++ " \x7b " ++ String.intercalate ", " (fields.map fun f => f.1 ++ ": " ++ f.2) ++ " \x7d"

def describeList (items : List String) : String := "[" ++ String.intercalate ", " items ++ "]"

def describeOption {α : Type} (f : α → String) : Option α → String
  | none => "None"
  | some a => "Some(" ++ f a ++ ")"

mutual

def DeliveryParameter.describe : DeliveryParameter → String
  | ⟨space, element, value, children⟩ => describeFields "DeliveryParameter"
    [("namespace", quoted space), ("element_name", quoted element), ("value", quoted value),
      ("children", describeList (DeliveryParameter.describeAll children))]

def DeliveryParameter.describeAll : List DeliveryParameter → List String
  | [] => []
  | p :: ps => p.describe :: DeliveryParameter.describeAll ps

end

def DeliveryDefinition.describe (d : DeliveryDefinition) : String :=
  describeFields "DeliveryDefinition"
    [("identifier", quoted d.identifier), ("location", quoted d.location), ("publication_id", quoted d.publicationId),
      ("parameters", describeList (DeliveryParameter.describeAll d.parameters)),
      ("use_raw", if d.useRaw then "true" else "false")]

def ParameterMap.describe (m : ParameterMap) : String :=
  "\x7b" ++ String.intercalate ", " (m.entries.map fun e => quoted e.1 ++ ": " ++ quoted e.2) ++ "\x7d"

def SubscribeOptions.describe (o : SubscribeOptions) : String :=
  describeFields "SubscribeOptions"
    [("publication_identifier", quoted o.publicationIdentifier),
      ("termination_time", describeOption Timestamp.describe o.terminationTime),
      ("filter_expression", describeOption quoted o.filterExpression),
      ("filter_language_id", describeOption quoted o.filterLanguage),
      ("delivery_definition", describeOption DeliveryDefinition.describe o.delivery),
      ("delivery_parameters", o.deliveryParameters.describe),
      ("content_type", describeOption quoted o.contentType)]

def Subscription.describe (s : Subscription) : String :=
  describeFields "Subscription"
    [("id", quoted s.id), ("options", s.options.describe), ("endpoint", quoted s.location)]

end EventBroker
