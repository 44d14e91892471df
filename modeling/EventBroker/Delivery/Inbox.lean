/-
Local queues of bounded length.

An inbox hands out what was put into it, first in first out. It takes no more than its capacity, and nothing once its
receiver is gone.
-/
import EventBroker.Message

namespace EventBroker

/-- a message as it is delivered -/
structure Delivered where
  contentType : String
  body : List UInt8
  payload : Payload

def Payload.delivered (p : Payload) (raw : Bool) : Delivered := ⟨p.contentType raw, p.body raw, p⟩

structure Inbox where
  capacity : Nat
  /-- what waits, the oldest first -/
  buffer : List Delivered
  hasReceiver : Bool

namespace Inbox

def ofCapacity (n : Nat) : Inbox := ⟨max n 1, [], true⟩

/-- why an inbox takes nothing -/
inductive Refusal where
  | noReceiver
  | full
  deriving DecidableEq

def send (b : Inbox) (m : Delivered) : Except Refusal Inbox :=
  if !b.hasReceiver then .error .noReceiver
  else if b.capacity ≤ b.buffer.length then .error .full
  else .ok { b with buffer := b.buffer ++ [m] }

/-- take the oldest message -/
def receive (b : Inbox) : Option Delivered × Inbox :=
  match b.buffer with
  | [] => (none, b)
  | m :: ms => (some m, { b with buffer := ms })

/-- take everything -/
def receiveAll (b : Inbox) : List Delivered × Inbox := (b.buffer, { b with buffer := [] })

def dropReceiver (b : Inbox) : Inbox := { b with hasReceiver := false }

end Inbox

end EventBroker
