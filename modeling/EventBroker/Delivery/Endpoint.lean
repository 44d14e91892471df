/-
Endpoints, which carry payloads to subscribers, and the code outside the broker that they rely on.

Code from outside answers with a reply: it has done what it was asked to, it failed, or it crashed.
-/
import EventBroker.Error
import EventBroker.Message
import EventBroker.Subscription.Options

namespace EventBroker

/-- how a call of code from outside ends -/
inductive Reply where
  | done
  | failed (e : BrokerError)
  /-- with the words of the crash, if it had any -/
  | crashed (words : Option String)

def Reply.isDone : Reply → Bool
  | .done => true
  | _ => false

/-- a message on its way to a transport -/
structure Outgoing where
  address : String
  subject : Option String
  contentType : String
  body : List UInt8

/-- a client of some protocol -/
abbrev Transport := Outgoing → Reply

/-- an endpoint that comes from outside -/
structure PlugIn where
  location : String
  deliver : Payload → (raw : Bool) → Reply
  destroy : Reply

/-- the ways to carry a payload -/
inductive Carrier where
  /-- post it to an address -/
  | push (address : String)
  /-- publish it at a topic under a subject -/
  | topic (address subject : String)
  /-- put it into an inbox, which was open under a name -/
  | inbox (name : String) (serial : Nat)
  | plugIn (p : PlugIn)

/-- the address that a carrier delivers to -/
def Carrier.location : Carrier → String
  | .push address => address
  | .topic address _ => address
  | .inbox name _ => "local:" ++ name
  | .plugIn p => p.location

/-- an endpoint as rules and subscriptions know it -/
inductive Endpoint where
  /-- a mere address: what is left of an endpoint in a stored record -/
  | detached (location : String)
  /-- an endpoint that is in use -/
  | bound (handle : Nat) (location : String)
  deriving DecidableEq

namespace Endpoint

/-- the address that the endpoint delivers to -/
def location : Endpoint → String
  | detached l => l
  | bound _ l => l

def handle? : Endpoint → Option Nat
  | detached _ => none
  | bound h _ => some h

end Endpoint

end EventBroker
