/-
Deliveries that differ in content types alone.

Two payloads are alike if they have the same text and the same bodies; what the messages are that they come from may
differ. Endpoints that are handed payloads that are alike, and that do not mind content types (`Hub.Impartial`), do alike:
they answer alike, and the hubs are alike afterwards. Local queues never mind: what they answer depends on how much they
hold.

- `Payload.Alike`, `Delivered.Alike`, `Deed.Alike`, `Inbox.Alike`, `Hub.Alike`: what is alike.
- `Hub.carry_alike` for each kind of carrier, `Hub.deliver_alike` for endpoints.
-/
import Mathlib.Data.List.Forall2
import EventBroker.Proofs.Delivery.Queues

namespace EventBroker

/-- the same text and the same bodies -/
structure Payload.Alike (p p' : Payload) : Prop where
  text : p'.text = p.text
  body : ∀ raw, p'.body raw = p.body raw

/-- content types may differ where they are those of the messages as they came -/
structure Delivered.Alike (d d' : Delivered) : Prop where
  payload : d.payload.Alike d'.payload
  body : d'.body = d.body
  contentType : d'.contentType = d.contentType ∨
    d.contentType = d.payload.message.contentType ∧ d'.contentType = d'.payload.message.contentType

/-- the same deed, with payloads that are alike -/
inductive Deed.Alike : Deed → Deed → Prop where
  | delivered {p p' : Payload} (h : p.Alike p') (handle : Nat) (c : Carrier) (raw : Bool) :
    Alike (.delivered handle c p raw) (.delivered handle c p' raw)
  | destroyed (handle : Nat) (c : Carrier) : Alike (.destroyed handle c) (.destroyed handle c)

structure Inbox.Alike (b b' : Inbox) : Prop where
  capacity : b'.capacity = b.capacity
  hasReceiver : b'.hasReceiver = b.hasReceiver
  buffer : List.Forall₂ Delivered.Alike b.buffer b'.buffer

/-- all is the same but what lies in the queues and is told in the journal, and that is alike -/
structure Hub.Alike (h h' : Hub) : Prop where
  rest : h' = { h with inboxes := h'.inboxes, journal := h'.journal }
  inboxes : ∀ serial, Option.Rel Inbox.Alike (h.inbox? serial) (h'.inbox? serial)
  journal : List.Forall₂ Deed.Alike h.journal h'.journal

/-- whether endpoints do what they are asked to does not depend on content types -/
structure Hub.Impartial (h : Hub) : Prop where
  transport : ∀ o contentType, (h.transport { o with contentType }).isDone = (h.transport o).isDone
  plugIns : ∀ outlet ∈ h.outlets, ∀ x, outlet.carrier = .plugIn x → ∀ p p' raw, p.Alike p' →
    (x.deliver p' raw).isDone = (x.deliver p raw).isDone

/-! ## Alike to itself -/

theorem Payload.Alike.refl (p : Payload) : p.Alike p := ⟨rfl, fun _ => rfl⟩

theorem Delivered.Alike.refl (d : Delivered) : d.Alike d := ⟨.refl _, rfl, Or.inl rfl⟩

theorem Deed.Alike.refl : (d : Deed) → d.Alike d
  | .delivered handle c p raw => .delivered (.refl p) handle c raw
  | .destroyed handle c => .destroyed handle c

theorem Inbox.Alike.refl (b : Inbox) : b.Alike b := ⟨rfl, rfl, List.forall₂_same.2 fun d _ => .refl d⟩

theorem Hub.Alike.refl (h : Hub) : h.Alike h := by
  refine ⟨rfl, fun serial => ?_, List.forall₂_same.2 fun d _ => .refl d⟩
  cases h.inbox? serial with
  | none => exact .none
  | some b => exact .some (.refl b)

/-! ## Queues -/

theorem Payload.Alike.delivered {p p' : Payload} (h : p.Alike p') (raw : Bool) :
    (p.delivered raw).Alike (p'.delivered raw) := by
  refine ⟨h, h.body raw, ?_⟩
  cases raw with
  | false => exact Or.inl rfl
  | true => exact Or.inr ⟨rfl, rfl⟩

/-- inboxes that are alike take, or refuse for the same reason, what is alike -/
theorem Inbox.send_alike {b b' : Inbox} {d d' : Delivered} (h : b.Alike b') (hd : d.Alike d') :
    (∃ e, b.send d = .error e ∧ b'.send d' = .error e) ∨
      ∃ c c', b.send d = .ok c ∧ b'.send d' = .ok c' ∧ c.Alike c' := by
  have hlength : b'.buffer.length = b.buffer.length := h.buffer.length_eq.symm
  unfold send
  rw [h.hasReceiver, h.capacity, hlength]
  split
  · exact Or.inl ⟨_, rfl, rfl⟩
  · split
    · exact Or.inl ⟨_, rfl, rfl⟩
    · exact Or.inr ⟨_, _, rfl, rfl, rfl, rfl, List.rel_append h.buffer (.cons hd .nil)⟩

namespace Hub

variable {h h' : Hub} {p p' : Payload}

namespace Alike

theorem transport (ha : h.Alike h') : h'.transport = h.transport := by rw [ha.rest]

theorem outlets (ha : h.Alike h') : h'.outlets = h.outlets := by rw [ha.rest]

theorem setInbox (ha : h.Alike h') {serial : Nat} {b b' c c' : Inbox} (hb : h.inbox? serial = some b)
    (hb' : h'.inbox? serial = some b') (hc : c.Alike c') :
    (h.setInbox serial c).Alike (h'.setInbox serial c') := by
  refine ⟨?_, fun s => ?_, ha.journal⟩
  · unfold Hub.setInbox
    rw [ha.rest]
  · rw [inbox?_setInbox hb, inbox?_setInbox hb']
    split
    · exact .some hc
    · exact ha.inboxes s

theorem tell (ha : h.Alike h') {d d' : Deed} (hd : d.Alike d') :
    Hub.Alike { h with journal := d :: h.journal } { h' with journal := d' :: h'.journal } := by
  refine ⟨?_, ha.inboxes, .cons hd ha.journal⟩
  rw [ha.rest]

/-- an inbox is there in both hubs or in none -/
theorem inbox_cases (ha : h.Alike h') (serial : Nat) :
    (h.inbox? serial = none ∧ h'.inbox? serial = none) ∨
      ∃ b b', h.inbox? serial = some b ∧ h'.inbox? serial = some b' ∧ b.Alike b' := by
  have hboxes := ha.inboxes serial
  generalize h.inbox? serial = x at hboxes
  generalize h'.inbox? serial = x' at hboxes
  cases hboxes with
  | none => exact Or.inl ⟨rfl, rfl⟩
  | some hb => exact Or.inr ⟨_, _, rfl, rfl, hb⟩

end Alike

theorem enqueue_alike (ha : h.Alike h') {d d' : Delivered} (hd : d.Alike d') (name : String) (serial : Nat) :
    (h'.enqueue name serial d').1.isDone = (h.enqueue name serial d).1.isDone ∧
      (h.enqueue name serial d).2.Alike (h'.enqueue name serial d').2 := by
  unfold enqueue
  rcases ha.inbox_cases serial with ⟨hb, hb'⟩ | ⟨b, b', hb, hb', hbox⟩
  · rw [hb, hb']
    exact ⟨rfl, ha⟩
  · rw [hb, hb']
    rcases Inbox.send_alike hbox hd with ⟨e, he, he'⟩ | ⟨c, c', hc, hc', halike⟩
    · simp only [he, he']
      cases e <;> exact ⟨rfl, ha⟩
    · simp only [hc, hc']
      exact ⟨trivial, ha.setInbox hb hb' halike⟩

/-! ## Endpoints -/

/-- a transport that does not mind content types answers alike -/
theorem Impartial.send (hi : h.Impartial) (ha : h.Alike h') (hp : p.Alike p') (address : String)
    (subject : Option String) (raw : Bool) :
    (h'.transport ⟨address, subject, p'.contentType raw, p'.body raw⟩).isDone =
      (h.transport ⟨address, subject, p.contentType raw, p.body raw⟩).isDone := by
  rw [ha.transport, hp.body raw]
  exact hi.transport ⟨address, subject, p.contentType raw, p.body raw⟩ (p'.contentType raw)

theorem carry_alike (ha : h.Alike h') (hi : h.Impartial) (hp : p.Alike p') {outlet : Outlet}
    (ho : outlet ∈ h.outlets) (raw : Bool) :
    (h'.carry outlet.carrier p' raw).1.isDone = (h.carry outlet.carrier p raw).1.isDone ∧
      (h.carry outlet.carrier p raw).2.Alike (h'.carry outlet.carrier p' raw).2 := by
  unfold carry
  cases hc : outlet.carrier with
  | push address => exact ⟨hi.send ha hp address none raw, ha⟩
  | topic address subject => exact ⟨hi.send ha hp address (some subject) raw, ha⟩
  | inbox name serial => exact enqueue_alike ha (hp.delivered raw) name serial
  | plugIn x => exact ⟨hi.plugIns outlet ho x hc p p' raw hp, ha⟩

/-- what an endpoint in use does: it carries the payload, and if that is done, it is told in the journal -/
theorem deliver_bound {handle : Nat} {outlet : Outlet} (ho : h.outlets[handle]? = some outlet)
    (hr : refuses outlet = false) (l : String) (p : Payload) (raw : Bool) :
    h.deliver (.bound handle l) p raw = ((h.carry outlet.carrier p raw).1,
      if (h.carry outlet.carrier p raw).1.isDone
      then { (h.carry outlet.carrier p raw).2 with
        journal := .delivered handle outlet.carrier p raw :: (h.carry outlet.carrier p raw).2.journal }
      else (h.carry outlet.carrier p raw).2) := by
  unfold deliver
  simp only [ho, hr, Bool.false_eq_true, if_false]
  cases hcarry : h.carry outlet.carrier p raw with
  | mk reply k => cases reply <;> rfl

/-- endpoints that are handed what is alike do alike -/
theorem deliver_alike (ha : h.Alike h') (hi : h.Impartial) (hp : p.Alike p') (e : Endpoint) (raw : Bool) :
    (h'.deliver e p' raw).1.isDone = (h.deliver e p raw).1.isDone ∧
      (h.deliver e p raw).2.Alike (h'.deliver e p' raw).2 := by
  cases e with
  | detached l => exact ⟨rfl, ha⟩
  | bound handle l =>
    cases ho : h.outlets[handle]? with
    | none =>
      have ho' : h'.outlets[handle]? = none := ha.outlets ▸ ho
      simp only [deliver, ho, ho']
      exact ⟨trivial, ha⟩
    | some outlet =>
      have ho' : h'.outlets[handle]? = some outlet := ha.outlets ▸ ho
      cases hr : refuses outlet with
      | true =>
        simp only [deliver, ho, ho', hr, if_true]
        exact ⟨trivial, ha⟩
      | false =>
        obtain ⟨hsame, halike⟩ := carry_alike ha hi hp (List.mem_of_getElem? ho) raw
        rw [deliver_bound ho hr, deliver_bound ho' hr]
        refine ⟨hsame, ?_⟩
        dsimp only
        rw [hsame]
        split
        · exact halike.tell (.delivered hp handle outlet.carrier raw)
        · exact halike

theorem carry_transport (h : Hub) (c : Carrier) (p : Payload) (raw : Bool) :
    (h.carry c p raw).2.transport = h.transport := by
  unfold carry
  split
  · rfl
  · rfl
  · unfold enqueue
    split
    · rfl
    · split <;> rfl
  · rfl

theorem deliver_transport (h : Hub) (e : Endpoint) (p : Payload) (raw : Bool) :
    (h.deliver e p raw).2.transport = h.transport := by
  unfold deliver
  split
  · rfl
  · split
    · rfl
    · rename_i outlet _
      split
      · rfl
      · have hsame := carry_transport h outlet.carrier p raw
        split <;> rename_i heq <;> rw [heq] at hsame <;> exact hsame

/-- deliveries change neither transport nor endpoints -/
theorem Impartial.deliver (hi : h.Impartial) (e : Endpoint) (p : Payload) (raw : Bool) :
    (h.deliver e p raw).2.Impartial := by
  refine ⟨?_, ?_⟩
  · rw [deliver_transport]
    exact hi.transport
  · rw [deliver_outlets]
    exact hi.plugIns

end Hub

end EventBroker
