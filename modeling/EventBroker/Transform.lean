/-
From messages to events.
-/
import EventBroker.Error
import EventBroker.Json.Tree
import EventBroker.Message
import EventBroker.Text.Blank

namespace EventBroker

/-- makes events of messages -/
structure Transformer where
  supports : Message → Bool
  transform : Message → (now : Timestamp) → Except BrokerError Event

namespace Transformer

/-- the document that a text is, blanks before it aside: only objects and arrays count -/
def document? (s : String) : Option Json.Value :=
  match Text.trimStart s.toList with
  | '{' :: cs => Json.Value.ofText? (String.ofList ('{' :: cs))
  | '[' :: cs => Json.Value.ofText? (String.ofList ('[' :: cs))
  | _ => none

/-- takes texts, UTF-8 bytes and documents -/
def standard : Transformer where
  supports
    | .bytes b => (Text.Utf8.text? b).isSome
    | _ => true
  transform m now :=
    match m with
    | .text s => .ok ⟨m, s, document? s, now⟩
    | .document v => .ok ⟨m, v.render, some v, now⟩
    | .bytes b =>
      match Text.Utf8.text? b with
      | some s => .ok ⟨m, s, document? s, now⟩
      | none => .error (.transformation ((Text.Utf8.firstFault b).getD ""))

/-- the same, but it claims to take everything -/
def lax : Transformer := { standard with supports := fun _ => true }

end Transformer

end EventBroker
