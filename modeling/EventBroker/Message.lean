/-
Messages as transports bring them, the events made of them, and what an endpoint is handed.

`Message.toText` and `Message.toBytes` are the two encodings of a message; a payload delivers one or the other.
-/
import EventBroker.Json.Printer
import EventBroker.Text.Utf8
import EventBroker.Time

namespace EventBroker

/-- the body of a message -/
inductive Message where
  | text (s : String)
  | bytes (b : List UInt8)
  | document (v : Json.Value)

namespace Message

def contentType : Message → String
  | .text _ => "text/plain"
  | .bytes _ => "application/octet-stream"
  | .document _ => "application/json"

/-- the message as bytes -/
def toBytes : Message → List UInt8
  | .text s => Text.Utf8.bytes s
  | .bytes b => b
  | .document v => Text.Utf8.bytes v.render

/-- the message as a text; bytes that are none are read with replacement -/
def toText : Message → String
  | .text s => s
  | .bytes b => Text.Utf8.lossy b
  | .document v => v.render

end Message

/-- a message in the form that filters see -/
structure Event where
  message : Message
  text : String
  /-- the structured form of a message that is or reads as a JSON document -/
  document : Option Json.Value
  received : Timestamp

/-- what an endpoint is handed for an event -/
structure Payload where
  message : Message
  text : String

namespace Payload

def ofEvent (e : Event) : Payload := ⟨e.message, e.text⟩

def contentType (p : Payload) (raw : Bool) : String :=
  if raw then p.message.contentType else "text/plain"

/-- the message as it came if `raw`, the text otherwise -/
def body (p : Payload) (raw : Bool) : List UInt8 :=
  if raw then p.message.toBytes else Text.Utf8.bytes p.text

end Payload

end EventBroker
