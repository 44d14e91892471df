/-
Providers, each of which makes endpoints for delivery definitions of one identifier.
-/
import EventBroker.Delivery.Endpoint

namespace EventBroker

inductive Provider where
  /-- posts to addresses of the web -/
  | push (identifier description : String)
  /-- publishes at the topics of AMQP brokers -/
  | amqp (basePrefix defaultBroker : String)
  /-- puts into local queues -/
  | queues
  | plugIn (identifier description : String) (make : DeliveryDefinition → Except BrokerError PlugIn)

namespace Provider

def httpIdentifier : String := "http-push"

def wsnIdentifier : String := "http://docs.oasis-open.org/wsn/b-2/NotificationConsumer"

def amqpIdentifier : String := "amqp"

def queueIdentifier : String := "local"

/-- the parameter that sets the subject of messages -/
def subjectParameter : String := "amqp.subject"

def defaultSubject : String := "herald"

def http : Provider := .push httpIdentifier "HTTP POST to a consumer-supplied callback URL"

def wsn : Provider := .push wsnIdentifier "WS-BaseNotification consumer receiving raw or Notify-wrapped messages"

def identifier : Provider → String
  | .push i _ => i
  | .amqp _ _ => amqpIdentifier
  | .queues => queueIdentifier
  | .plugIn i _ _ => i

def description : Provider → String
  | .push _ d => d
  | .amqp _ _ => "Advanced Message Queuing Protocol 1.0"
  | .queues => "In-process bounded queue"
  | .plugIn _ d _ => d

/-- the first provider with an identifier, compared letter by letter -/
def resolve (ps : List Provider) (identifier : String) : Except BrokerError Provider :=
  match ps.find? fun p => p.identifier == identifier with
  | some p => .ok p
  | none => .error (.unsupportedDelivery
      (.text ("No provider for the delivery definition is available: " ++ identifier)))

end Provider

end EventBroker
