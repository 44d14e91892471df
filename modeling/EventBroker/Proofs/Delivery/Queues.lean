/-
What operations of the hub do to local queues.

A name may stand for several queues one after the other. Endpoints keep the queue that stood under the name when they
were made (`Hub.create_serial?`), whatever happens to the name afterwards.

- `Payload.parcel`: what is delivered of a payload, written out.
- `Hub.deliver_of_room`, `Hub.deliver_refused`, `Hub.deliver_elsewhere`: all that a delivery does to queues.
- `Hub.poll_of_nil`, `Hub.poll_of_cons`: what a receiver is told.
- `Hub.hasSender_iff`: when a queue can still get messages.
- `Hub.SameQueues`: everything else leaves queues as they are.
-/
import EventBroker.Proofs.Delivery.Outlets

namespace EventBroker

/-- what is delivered of a payload: the message as it came under a content type of its own, or else the text. Whoever
receives it has the payload as well. -/
def Payload.parcel : Payload → (raw : Bool) → Delivered
  | ⟨m, t⟩, false => ⟨"text/plain", Text.Utf8.bytes t, ⟨m, t⟩⟩
  | ⟨.text s, t⟩, true => ⟨"text/plain", Text.Utf8.bytes s, ⟨.text s, t⟩⟩
  | ⟨.bytes b, t⟩, true => ⟨"application/octet-stream", b, ⟨.bytes b, t⟩⟩
  | ⟨.document v, t⟩, true => ⟨"application/json", Text.Utf8.bytes v.render, ⟨.document v, t⟩⟩

theorem Payload.delivered_eq_parcel (p : Payload) (raw : Bool) : p.delivered raw = p.parcel raw := by
  obtain ⟨m, t⟩ := p
  cases raw with
  | false => rfl
  | true => cases m <;> rfl

/-- the local queue that a carrier puts into -/
def Carrier.serial? : Carrier → Option Nat
  | .inbox _ serial => some serial
  | _ => none

namespace Hub

/-- what waits in a local queue, the oldest first -/
def waiting (h : Hub) (serial : Nat) : List Delivered := ((h.inbox? serial).map Inbox.buffer).getD []

/-- the local queue that the endpoint of a handle puts into -/
def target? (h : Hub) (handle : Nat) : Option Nat := (h.outlets[handle]?).bind fun o => o.carrier.serial?

/-- the endpoint of a handle, as its holders have it -/
def endpoint (h : Hub) (handle : Nat) : Endpoint :=
  .bound handle ((h.outlets[handle]?.map fun o => o.carrier.location).getD "")

/-- the name of the local queue that an endpoint of a definition puts into -/
def queueName? (h : Hub) (d : DeliveryDefinition) : Option String :=
  match Provider.resolve h.providers d.identifier with
  | .ok .queues => some d.location
  | _ => none

/-- someone still receives from a local queue, and one more message fits -/
def HasRoom (h : Hub) (serial : Nat) : Prop :=
  ∃ b, h.inbox? serial = some b ∧ b.hasReceiver = true ∧ b.buffer.length < b.capacity

/-- two hubs have the same local queues under the same names -/
structure SameQueues (h k : Hub) : Prop where
  bufferSize : k.bufferSize = h.bufferSize
  queues : k.queues = h.queues
  inboxes : k.inboxes = h.inboxes

namespace SameQueues

theorem refl (h : Hub) : SameQueues h h := ⟨rfl, rfl, rfl⟩

theorem trans {h k l : Hub} (h₁ : SameQueues h k) (h₂ : SameQueues k l) : SameQueues h l :=
  ⟨h₂.bufferSize.trans h₁.bufferSize, h₂.queues.trans h₁.queues, h₂.inboxes.trans h₁.inboxes⟩

theorem inbox?_eq {h k : Hub} (same : SameQueues h k) (serial : Nat) : k.inbox? serial = h.inbox? serial := by
  simp only [inbox?, same.inboxes]

theorem waiting_eq {h k : Hub} (same : SameQueues h k) (serial : Nat) : k.waiting serial = h.waiting serial := by
  simp only [waiting, same.inbox?_eq]

end SameQueues

/-! ## Queues and inboxes -/

theorem waiting_of_inbox? {h : Hub} {serial : Nat} {b : Inbox} (hb : h.inbox? serial = some b) :
    h.waiting serial = b.buffer := by
  simp only [waiting, hb, Option.map_some, Option.getD_some]

theorem inbox?_setInbox {h : Hub} {serial : Nat} {b : Inbox} (hb : h.inbox? serial = some b) (b' : Inbox) (s : Nat) :
    (h.setInbox serial b').inbox? s = if s = serial then some b' else h.inbox? s := by
  have hlt : serial < h.inboxes.length := (List.getElem?_eq_some_iff.1 hb).1
  by_cases hs : s = serial
  · simp [inbox?, setInbox, hs, hlt]
  · simp [inbox?, setInbox, hs, Ne.symm hs]

theorem waiting_setInbox {h : Hub} {serial : Nat} {b : Inbox} (hb : h.inbox? serial = some b) (b' : Inbox) (s : Nat) :
    (h.setInbox serial b').waiting s = if s = serial then b'.buffer else h.waiting s := by
  by_cases hs : s = serial
  · simp [waiting, inbox?_setInbox hb, hs]
  · simp [waiting, inbox?_setInbox hb, hs]

theorem mem_setInbox {h : Hub} {serial : Nat} {b x : Inbox} (hx : x ∈ (h.setInbox serial b).inboxes) :
    x ∈ h.inboxes ∨ x = b :=
  List.mem_or_eq_of_mem_set hx

theorem mem_inboxes {h : Hub} {serial : Nat} {b : Inbox} (hb : h.inbox? serial = some b) : b ∈ h.inboxes :=
  List.mem_of_getElem? hb

theorem inbox?_openQueue (h : Hub) (name : String) (serial : Nat) :
    (h.openQueue name).2.inbox? serial =
      if serial = h.inboxes.length then some (.ofCapacity h.bufferSize) else h.inbox? serial := by
  simp only [openQueue, inbox?, List.getElem?_append]
  by_cases hlt : serial < h.inboxes.length
  · simp [hlt, Nat.ne_of_lt hlt]
  · by_cases heq : serial = h.inboxes.length
    · simp [heq]
    · have hgt : h.inboxes.length < serial := by omega
      have hpos : serial - h.inboxes.length ≠ 0 := by omega
      simp [hlt, heq, hpos]

/-! ## Endpoints -/

theorem outlet_of_target {h : Hub} {handle serial : Nat} (ht : h.target? handle = some serial) :
    ∃ name, h.outlets[handle]? = some ⟨.inbox name serial, h.destroyCount handle⟩ := by
  obtain ⟨⟨c, n⟩, ho, hc⟩ := Option.bind_eq_some_iff.1 ht
  have hcount : h.destroyCount handle = n := by simp only [destroyCount, ho, Option.map_some, Option.getD_some]
  cases c with
  | inbox name s =>
    have hs : s = serial := Option.some.inj hc
    exact ⟨name, by rw [ho, hcount, hs]⟩
  | push address => cases hc
  | topic address subject => cases hc
  | plugIn x => cases hc

theorem enqueue_of_room {h : Hub} {serial : Nat} {b : Inbox} (hb : h.inbox? serial = some b)
    (hreceiver : b.hasReceiver = true) (hroom : b.buffer.length < b.capacity) (name : String) (m : Delivered) :
    h.enqueue name serial m = (.done, h.setInbox serial { b with buffer := b.buffer ++ [m] }) := by
  have hsend : b.send m = .ok { b with buffer := b.buffer ++ [m] } := by
    simp only [Inbox.send, hreceiver, Bool.not_true, Bool.false_eq_true, if_false]
    rw [if_neg (Nat.not_le.2 hroom)]
  simp only [enqueue, hb, hsend]

theorem enqueue_refused {h : Hub} {serial : Nat} (hno : ¬ h.HasRoom serial) (name : String) (m : Delivered) :
    ∃ f, h.enqueue name serial m = (.failed f, h) := by
  unfold enqueue
  cases hb : h.inbox? serial with
  | none => exact ⟨_, rfl⟩
  | some b =>
    by_cases hreceiver : b.hasReceiver = true
    · have hfull : b.capacity ≤ b.buffer.length := by
        by_contra hroom
        exact hno ⟨b, hb, hreceiver, Nat.lt_of_not_le hroom⟩
      have hsend : b.send m = .error .full := by simp [Inbox.send, hreceiver, hfull]
      simp only [hsend]
      exact ⟨_, rfl⟩
    · have hsend : b.send m = .error .noReceiver := by simp [Inbox.send, hreceiver]
      simp only [hsend]
      exact ⟨_, rfl⟩

/-- an endpoint that is not destroyed puts a message at the end of its queue if there is room -/
theorem deliver_of_room {h : Hub} {handle serial : Nat} {b : Inbox} (ht : h.target? handle = some serial)
    (hlive : h.destroyCount handle = 0) (hb : h.inbox? serial = some b) (hreceiver : b.hasReceiver = true)
    (hroom : b.buffer.length < b.capacity) (l : String) (p : Payload) (raw : Bool) :
    ∃ k, h.deliver (.bound handle l) p raw = (.done, k) ∧
      SameQueues (h.setInbox serial { b with buffer := b.buffer ++ [p.delivered raw] }) k := by
  obtain ⟨name, ho⟩ := outlet_of_target ht
  rw [hlive] at ho
  have hput := enqueue_of_room hb hreceiver hroom name (p.delivered raw)
  refine ⟨{ h.setInbox serial { b with buffer := b.buffer ++ [p.delivered raw] } with
    journal := .delivered handle (.inbox name serial) p raw :: h.journal }, ?_, ⟨rfl, rfl, rfl⟩⟩
  simp only [deliver, ho, refuses, carry, hput]
  rfl

/-- a destroyed endpoint, or one whose queue has no room, fails and changes nothing -/
theorem deliver_refused {h : Hub} {handle serial : Nat} (ht : h.target? handle = some serial)
    (hno : ¬ (h.destroyCount handle = 0 ∧ h.HasRoom serial)) (l : String) (p : Payload) (raw : Bool) :
    ∃ f, h.deliver (.bound handle l) p raw = (.failed f, h) := by
  obtain ⟨name, ho⟩ := outlet_of_target ht
  by_cases hlive : h.destroyCount handle = 0
  · have hroom : ¬ h.HasRoom serial := fun hroom => hno ⟨hlive, hroom⟩
    obtain ⟨f, hf⟩ := enqueue_refused hroom name (p.delivered raw)
    refine ⟨f, ?_⟩
    rw [hlive] at ho
    simp only [deliver, ho, refuses, carry, hf]
    rfl
  · refine ⟨.endpointDestroyed l, ?_⟩
    simp [deliver, ho, refuses, hlive]

theorem carry_sameQueues {h : Hub} {c : Carrier} (hc : c.serial? = none) (p : Payload) (raw : Bool) :
    SameQueues h (h.carry c p raw).2 := by
  cases c with
  | inbox name serial => cases hc
  | push address => exact .refl h
  | topic address subject => exact .refl h
  | plugIn x => exact .refl h

/-- an endpoint that was not made for a local queue leaves all queues as they are -/
theorem deliver_elsewhere {h : Hub} {handle : Nat} (ht : h.target? handle = none) (l : String) (p : Payload)
    (raw : Bool) : SameQueues h (h.deliver (.bound handle l) p raw).2 := by
  unfold deliver
  split
  · exact .refl h
  · rename_i k l' heq
    cases heq
    split
    · exact .refl h
    · rename_i o ho
      have hc : o.carrier.serial? = none := by simpa only [target?, ho, Option.bind_some] using ht
      have hsame := carry_sameQueues (h := h) hc p raw
      split
      · exact .refl h
      · split <;> rename_i hcarry <;> rw [hcarry] at hsame
        · exact ⟨hsame.bufferSize, hsame.queues, hsame.inboxes⟩
        · exact hsame

theorem destroy_sameQueues (h : Hub) (e : Endpoint) : SameQueues h (h.destroy e).2 := by
  unfold destroy
  split
  · exact .refl h
  · split
    · exact .refl h
    · exact ⟨rfl, rfl, rfl⟩

theorem carrier_sameQueues (h : Hub) (p : Provider) (d : DeliveryDefinition) : SameQueues h (h.carrier p d).2 := by
  unfold carrier
  split
  · split
    · exact .refl h
    · split <;> exact .refl h
  · split
    · exact .refl h
    · exact ⟨rfl, rfl, rfl⟩
  · split <;> exact .refl h
  · exact .refl h

theorem create_sameQueues (h : Hub) (d : DeliveryDefinition) : SameQueues h (h.create d).2 := by
  unfold create
  split
  · exact .refl h
  · rename_i maker _
    have hsame := carrier_sameQueues h maker d
    split
    · rename_i heq
      rwa [heq] at hsame
    · rename_i heq
      rw [heq] at hsame
      exact hsame.trans ⟨rfl, rfl, rfl⟩

/-- the provider of local queues takes the queue that stands under the name, and no other provider takes one -/
theorem create_serial? {h : Hub} {d : DeliveryDefinition} {e : Endpoint} (he : (h.create d).1 = .ok e) :
    ∃ c, e = .bound h.outlets.length c.location ∧ (h.create d).2.outlets = h.outlets ++ [⟨c, 0⟩] ∧
      c.serial? = (h.queueName? d).bind h.queues.find? := by
  obtain ⟨maker, c, hmaker, hc, hbound, houtlets⟩ := create_made he
  refine ⟨c, hbound, houtlets, ?_⟩
  rcases carrier_cases hc with ⟨i, t, a, rfl, rfl⟩ | ⟨base, broker, a, subject, rfl, rfl⟩ |
    ⟨serial, rfl, hfind, rfl⟩ | ⟨i, t, make, x, rfl, rfl⟩
  · simp only [queueName?, hmaker, Carrier.serial?, Option.bind_none]
  · simp only [queueName?, hmaker, Carrier.serial?, Option.bind_none]
  · simp only [queueName?, hmaker, Carrier.serial?, Option.bind_some, hfind]
  · simp only [queueName?, hmaker, Carrier.serial?, Option.bind_none]

theorem target?_append {h k : Hub} {c : Carrier} (hk : k.outlets = h.outlets ++ [⟨c, 0⟩]) (handle : Nat) :
    k.target? handle = if handle = h.outlets.length then c.serial? else h.target? handle := by
  simp only [target?, hk, List.getElem?_append]
  by_cases hlt : handle < h.outlets.length
  · simp [hlt, Nat.ne_of_lt hlt]
  · by_cases heq : handle = h.outlets.length
    · simp [heq]
    · have hpos : handle - h.outlets.length ≠ 0 := by omega
      simp [hlt, heq, hpos]

theorem destroyCount_append {h k : Hub} {c : Carrier} (hk : k.outlets = h.outlets ++ [⟨c, 0⟩]) (handle : Nat) :
    k.destroyCount handle = h.destroyCount handle := by
  simp only [destroyCount, hk, List.getElem?_append]
  by_cases hlt : handle < h.outlets.length
  · simp only [hlt, if_true]
  · by_cases heq : handle = h.outlets.length
    · simp [heq]
    · have hpos : handle - h.outlets.length ≠ 0 := by omega
      simp [hlt, hpos]

theorem target?_destroy (h : Hub) (e : Endpoint) (handle : Nat) :
    (h.destroy e).2.target? handle = h.target? handle := by
  unfold destroy
  split
  · rfl
  · split
    · rfl
    · rename_i k l _ o ho
      by_cases hk : k = handle
      · have hlt : k < h.outlets.length := (List.getElem?_eq_some_iff.1 ho).1
        subst hk
        simp only [target?, ho, List.getElem?_set_self hlt, Option.bind_some]
      · simp only [target?, List.getElem?_set_ne hk]

/-- a queue can still get messages if it stands under a name, or if someone has an endpoint for it that is in use -/
theorem hasSender_iff {h : Hub} {serial : Nat} {held : List Nat} :
    h.hasSender serial held = true ↔
      (∃ name, h.queues.find? name = some serial) ∨
        ∃ k ∈ held, h.target? k = some serial ∧ h.destroyCount k = 0 := by
  have hstanding : h.queues.values.contains serial = true ↔ ∃ name, h.queues.find? name = some serial := by
    rw [List.contains_iff_mem, Table.mem_values_iff]
  simp only [hasSender, Bool.or_eq_true, List.any_eq_true, hstanding]
  refine or_congr_right (exists_congr fun k => and_congr_right fun _ => ?_)
  cases ho : h.outlets[k]? with
  | none => simp [target?, ho]
  | some o =>
    obtain ⟨c, n⟩ := o
    cases c <;> cases n <;> simp [target?, destroyCount, ho, Carrier.serial?]

/-- who polls an empty queue learns whether it can still get messages -/
theorem poll_of_nil {h : Hub} {serial : Nat} (hnil : h.waiting serial = []) (held : List Nat) :
    ∃ k, h.poll serial held = (if h.hasSender serial held then .empty else .disconnected, k) ∧
      SameQueues h k ∧ k.outlets = h.outlets := by
  simp only [poll, receive]
  cases hb : h.inbox? serial with
  | none => exact ⟨h, rfl, .refl h, rfl⟩
  | some b =>
    have hbuffer : b.buffer = [] := (waiting_of_inbox? hb).symm.trans hnil
    have hreceive : b.receive = (none, b) := by simp only [Inbox.receive, hbuffer]
    have hsame : (h.setInbox serial b).inboxes = h.inboxes := by
      obtain ⟨hlt, hget⟩ := List.getElem?_eq_some_iff.1 hb
      simp only [setInbox, ← hget, List.set_getElem_self]
    simp only [hreceive]
    exact ⟨h.setInbox serial b, rfl, ⟨rfl, rfl, hsame⟩, rfl⟩

/-- who polls a queue with messages gets the oldest -/
theorem poll_of_cons {h : Hub} {serial : Nat} {b : Inbox} (hb : h.inbox? serial = some b) {m : Delivered}
    {ms : List Delivered} (hbuffer : b.buffer = m :: ms) (held : List Nat) :
    h.poll serial held = (.message m, h.setInbox serial { b with buffer := ms }) := by
  have hreceive : b.receive = (some m, { b with buffer := ms }) := by simp only [Inbox.receive, hbuffer]
  simp only [poll, receive, hb, hreceive]

end Hub

end EventBroker
