/-
The hub of delivery: providers, local queues, and every endpoint that was made.

An endpoint is known by its handle. The hub counts how often each one was destroyed, and keeps a journal of what
endpoints handed on and which were destroyed, in order.
-/
import EventBroker.Delivery.Address
import EventBroker.Delivery.Inbox
import EventBroker.Delivery.Provider
import EventBroker.Table

namespace EventBroker

/-- an endpoint that was made -/
structure Outlet where
  carrier : Carrier
  /-- how often it was destroyed -/
  destroyed : Nat

/-- something that an endpoint did -/
inductive Deed where
  | delivered (handle : Nat) (carrier : Carrier) (payload : Payload) (raw : Bool)
  | destroyed (handle : Nat) (carrier : Carrier)

structure Hub where
  transport : Transport
  /-- the suffixes that made-up topics get, one after the other -/
  suffixes : Nat → String
  drawn : Nat
  providers : List Provider
  /-- how much a local queue holds -/
  bufferSize : Nat
  /-- the open local queues, by name -/
  queues : Table String Nat
  /-- every local queue that was opened -/
  inboxes : List Inbox
  outlets : List Outlet
  /-- the last deed first -/
  journal : List Deed

namespace Hub

def empty (transport : Transport) (suffixes : Nat → String) (bufferSize : Nat) (providers : List Provider) : Hub :=
  ⟨transport, suffixes, 0, providers, bufferSize, .empty, [], [], []⟩

/-- how much a local queue holds unless it is told otherwise -/
def defaultBuffer : Nat := 1000

/-! ## Local queues -/

/-- open a queue under a name; an open one of that name takes no more endpoints -/
def openQueue (h : Hub) (name : String) : Nat × Hub :=
  let serial := h.inboxes.length
  (serial, { h with
    inboxes := h.inboxes ++ [Inbox.ofCapacity h.bufferSize]
    queues := h.queues.insert name serial })

/-- close a queue for further endpoints; those it has may go on -/
def closeQueue (h : Hub) (name : String) : Bool × Hub :=
  (h.queues.contains name, { h with queues := h.queues.erase name })

def inbox? (h : Hub) (serial : Nat) : Option Inbox := h.inboxes[serial]?

def setInbox (h : Hub) (serial : Nat) (b : Inbox) : Hub := { h with inboxes := h.inboxes.set serial b }

def dropReceiver (h : Hub) (serial : Nat) : Hub :=
  match h.inbox? serial with
  | some b => h.setInbox serial b.dropReceiver
  | none => h

/-- take the oldest message of a queue -/
def receive (h : Hub) (serial : Nat) : Option Delivered × Hub :=
  match h.inbox? serial with
  | some b => (b.receive.1, h.setInbox serial b.receive.2)
  | none => (none, h)

/-- take all messages of a queue -/
def receiveAll (h : Hub) (serial : Nat) : List Delivered × Hub :=
  match h.inbox? serial with
  | some b => (b.receiveAll.1, h.setInbox serial b.receiveAll.2)
  | none => ([], h)

/-- something can still be put into a queue: it is open, or an endpoint for it is held by someone and not destroyed -/
def hasSender (h : Hub) (serial : Nat) (held : List Nat) : Bool :=
  h.queues.values.contains serial || held.any fun handle =>
    match h.outlets[handle]? with
    | some ⟨.inbox _ s, 0⟩ => s == serial
    | _ => false

/-- what a receiver is told when it asks for a message -/
inductive Reception where
  | message (m : Delivered)
  /-- nothing waits, but something may still come -/
  | empty
  /-- nothing waits, and nothing can come any more -/
  | disconnected

/-- take the oldest message of a queue, or learn why there is none -/
def poll (h : Hub) (serial : Nat) (held : List Nat) : Reception × Hub :=
  match h.receive serial with
  | (some m, h) => (.message m, h)
  | (none, h) => (if h.hasSender serial held then .empty else .disconnected, h)

/-! ## Endpoints -/

/-- take a carrier into use -/
def bind (h : Hub) (c : Carrier) : Endpoint × Hub :=
  (.bound h.outlets.length c.location, { h with outlets := h.outlets ++ [⟨c, 0⟩] })

/-- a carrier for a definition, made by a provider -/
def carrier (h : Hub) (p : Provider) (d : DeliveryDefinition) : Except BrokerError Carrier × Hub :=
  match p with
  | .push _ _ =>
    match Url.parse (Text.trim d.location) with
    | .error e =>
      (.error (.unsupportedDelivery (.text ("Illegal URL provided '" ++ d.location ++ "': " ++ e.message))), h)
    | .ok url =>
      if url.scheme == "http" || url.scheme == "https" then (.ok (.push url.spelling), h)
      else (.error (.unsupportedDelivery
        (.text ("Push delivery requires an http(s) URL, got '" ++ d.location ++ "'"))), h)
  | .amqp base broker =>
    match TopicAddress.target (TopicAddress.effective d.location.toList broker.toList) with
    | .error e => (.error e, h)
    | .ok t =>
      let topic := TopicAddress.topicName base d.publicationId (h.suffixes h.drawn)
      let subject := (d.parameter? Provider.subjectParameter).getD Provider.defaultSubject
      ((t.address topic).map fun a => .topic a subject,
        { h with drawn := if t.needsTopic then h.drawn + 1 else h.drawn })
  | .queues =>
    match h.queues.find? d.location with
    | some serial => (.ok (.inbox d.location serial), h)
    | none => (.error (.unsupportedDelivery (.text ("No local queue named '" ++ d.location ++ "'"))), h)
  | .plugIn _ _ make => ((make d).map .plugIn, h)

/-- every failure to make an endpoint is one of an unsupported definition -/
def asUnsupported : BrokerError → BrokerError
  | .unsupportedDelivery r => .unsupportedDelivery r
  | e => .unsupportedDelivery e.toDetail

/-- make an endpoint for a definition -/
def create (h : Hub) (d : DeliveryDefinition) : Except BrokerError Endpoint × Hub :=
  match Provider.resolve h.providers d.identifier with
  | .error e => (.error e, h)
  | .ok p =>
    match h.carrier p d with
    | (.error e, h) => (.error (asUnsupported e), h)
    | (.ok c, h) =>
      let (e, h) := h.bind c
      (.ok e, h)

/-- put a message into a queue -/
def enqueue (h : Hub) (name : String) (serial : Nat) (m : Delivered) : Reply × Hub :=
  match h.inbox? serial with
  | none => (.failed (.delivery ("queue " ++ name ++ " has no receiver")), h)
  | some b =>
    match b.send m with
    | .ok b => (.done, h.setInbox serial b)
    | .error .noReceiver => (.failed (.delivery ("queue " ++ name ++ " has no receiver")), h)
    | .error .full => (.failed (.delivery ("queue " ++ name ++ " is full")), h)

/-- carry a payload -/
def carry (h : Hub) (c : Carrier) (p : Payload) (raw : Bool) : Reply × Hub :=
  match c with
  | .push address => (h.transport ⟨address, none, p.contentType raw, p.body raw⟩, h)
  | .topic address subject => (h.transport ⟨address, some subject, p.contentType raw, p.body raw⟩, h)
  | .inbox name serial => h.enqueue name serial (p.delivered raw)
  | .plugIn x => (x.deliver p raw, h)

/-- a carrier of the broker's own refuses to work once it was destroyed -/
def refuses (outlet : Outlet) : Bool :=
  match outlet.carrier with
  | .plugIn _ => false
  | _ => outlet.destroyed != 0

/-- hand a payload to an endpoint -/
def deliver (h : Hub) (e : Endpoint) (p : Payload) (raw : Bool) : Reply × Hub :=
  match e with
  | .detached l => (.failed (.delivery ("endpoint " ++ l ++ " is not attached to a transport")), h)
  | .bound handle l =>
    match h.outlets[handle]? with
    | none => (.failed (.endpointDestroyed l), h)
    | some outlet =>
      if refuses outlet then (.failed (.endpointDestroyed l), h)
      else
        match h.carry outlet.carrier p raw with
        | (.done, h) => (.done, { h with journal := .delivered handle outlet.carrier p raw :: h.journal })
        | (r, h) => (r, h)

/-- let an endpoint go -/
def destroy (h : Hub) (e : Endpoint) : Reply × Hub :=
  match e with
  | .detached _ => (.done, h)
  | .bound handle _ =>
    match h.outlets[handle]? with
    | none => (.done, h)
    | some outlet =>
      let reply := match outlet.carrier with
        | .plugIn x => x.destroy
        | _ => .done
      (reply, { h with
        outlets := h.outlets.set handle ⟨outlet.carrier, outlet.destroyed + 1⟩
        journal := .destroyed handle outlet.carrier :: h.journal })

/-- how often an endpoint was destroyed -/
def destroyCount (h : Hub) (handle : Nat) : Nat := (h.outlets[handle]?.map Outlet.destroyed).getD 0

/-- the journal is read and begun anew -/
def takeJournal (h : Hub) : List Deed × Hub := (h.journal.reverse, { h with journal := [] })

end Hub

/-- a crash is told as a failure to deliver -/
def Reply.destroyError? : Reply → Option BrokerError
  | .done => none
  | .failed e => some e
  | .crashed words => some (.delivery ("destroying endpoint panicked: " ++ words.getD "unknown panic"))

end EventBroker
