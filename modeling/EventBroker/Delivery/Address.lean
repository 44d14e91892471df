/-
Addresses of topics and queues at AMQP brokers.

A location names a host and may name a topic. Where it names none, an address is made up from a base, the publication
and a suffix that keeps it apart from others. `normalize` answers an address that starts with a known scheme and names a
topic, or the reason why the location leads to none.
-/
import EventBroker.Error
import EventBroker.Text.Blank
import EventBroker.Url.Parse

namespace EventBroker

namespace TopicAddress

/-- the schemes of brokers -/
def schemes : List String := ["amqp", "amqps", "topic", "queue"]

/-- what stands between a scheme and a host -/
def schemeMark : List Char := "://".toList

/-- where a location leads -/
inductive Target where
  /-- to a topic that it names -/
  | named (address : List Char)
  /-- to a place where a topic is still to be named; it ends with a slash -/
  | under (place : List Char)
  deriving DecidableEq

def invalid (location : List Char) (reason : String) : BrokerError :=
  .unsupportedDelivery (.text ("Invalid AMQP location '" ++ String.ofList location ++ "': " ++ reason))

/-- cut a text at the first occurrence of a mark -/
def cutOnce (mark : List Char) : List Char → Option (List Char × List Char)
  | [] => if mark.isEmpty then some ([], []) else none
  | c :: cs =>
    if mark.isPrefixOf (c :: cs) then some ([], (c :: cs).drop mark.length)
    else (cutOnce mark cs).map fun p => (c :: p.1, p.2)

/-- a location without the blanks around it; an empty one stands for the default broker -/
def effective (location defaultBroker : List Char) : List Char :=
  match Text.trimEnd (Text.trimStart location) with
  | [] => Text.trimEnd (Text.trimStart defaultBroker)
  | l => l

/-- scheme and rest of a location; one without a scheme is for the standard protocol -/
def parted (location : List Char) : List Char × List Char :=
  (cutOnce schemeMark location).getD ("amqp".toList, location)

/-- where a location leads, given without blanks around it -/
def target (location : List Char) : Except BrokerError Target :=
  let (scheme, rest) := parted location
  if !schemes.contains (String.ofList scheme) then .error (invalid location "unknown scheme")
  else if rest.head?.all (· == '/') || rest.any Text.isBlank then
    .error (invalid location "missing or malformed host")
  else
    let address := scheme ++ schemeMark ++ rest
    if !rest.contains '/' then .ok (.under (address ++ ['/']))
    else if rest.getLast? == some '/' then .ok (.under address)
    else .ok (.named address)

/-- the name of a made-up topic -/
def topicName (base publication suffix : String) : List Char :=
  base.toList ++ '.' :: publication.toList ++ '.' :: suffix.toList

/-- an address is also one in the general form of addresses -/
def checked (address : List Char) : Except BrokerError String :=
  match Url.parse (String.ofList address) with
  | .ok _ => .ok (String.ofList address)
  | .error e => .error (invalid address e.message)

/-- the address that a target stands for; only a place without a topic needs a name for one -/
def Target.address (t : Target) (topic : List Char) : Except BrokerError String :=
  match t with
  | .named address => checked address
  | .under place => checked (place ++ topic)

def Target.needsTopic : Target → Bool
  | .named _ => false
  | .under _ => true

/-- the address of a location -/
def normalize (location defaultBroker base publication suffix : String) : Except BrokerError String := do
  let t ← target (effective location.toList defaultBroker.toList)
  t.address (topicName base publication suffix)

end TopicAddress

end EventBroker
