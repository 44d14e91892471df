/-
Local queues are first in first out, bounded, and lose nothing.

A `Depot` is a hub together with its users: the endpoints and the receivers that somebody has, and a log of what
happened. Names, endpoints and receivers may belong to different generations of one name. The log alone tells which
queue stands under a name (`Depot.registered`) and which one an endpoint was made from (`Depot.origin`).

- `Depot.step_sound`, `Depot.run_sound`: the hub stands as the log tells, kept by every errand and by every run.
- `Depot.run_lossless`: in every state of every run, what was received and what still waits is what was accepted, in
  order and each once, with its payload, content type and body; an endpoint accepts as long as there is room; a receiver
  is told that nothing more can come once that is so, and not before.

Premises: none on providers, names and messages. Users have what they use: an endpoint that nobody holds is not
delivered to, and a receiver that was dropped receives nothing.
-/
import Mathlib.Data.List.Induction
import EventBroker.Proofs.Delivery.Queues

namespace EventBroker

/-! ## Users of local queues -/

/-- something that a user does with local queues, endpoints and receivers -/
inductive Errand where
  | openQueue (name : String)
  | closeQueue (name : String)
  | create (d : DeliveryDefinition)
  | deliver (handle : Nat) (p : Payload) (raw : Bool)
  | destroy (handle : Nat)
  /-- an endpoint is dropped by the last one who has it -/
  | letGo (handle : Nat)
  | receive (serial : Nat)
  | dropReceiver (serial : Nat)

namespace Depot

/-- something that happened -/
inductive Entry where
  | opened (name : String) (serial : Nat)
  | closed (name : String)
  /-- an endpoint was made, for the local queue of a name or for something else -/
  | made (handle : Nat) (name? : Option String)
  /-- an endpoint took a payload, to be delivered in this form -/
  | accepted (handle : Nat) (p : Payload) (raw : Bool)
  | destroyed (handle : Nat)
  | received (serial : Nat) (m : Delivered)

/-- the queue that stands under a name after all this, the last entry being the first of the list -/
def registered (name : String) : List Entry → Option Nat
  | [] => none
  | .opened n serial :: past => if n = name then some serial else registered name past
  | .closed n :: past => if n = name then none else registered name past
  | _ :: past => registered name past

/-- the queue that an endpoint was made from: the one that stood under its name at that moment -/
def origin (handle : Nat) : List Entry → Option Nat
  | [] => none
  | .made k name? :: past =>
    if k = handle then name?.bind fun name => registered name past else origin handle past
  | _ :: past => origin handle past

/-- what the endpoints made from a queue took, in order and as it is to arrive -/
def accepted (serial : Nat) : List Entry → List Delivered
  | [] => []
  | .accepted k p raw :: past =>
    if origin k past = some serial then accepted serial past ++ [p.parcel raw] else accepted serial past
  | _ :: past => accepted serial past

/-- what was received from a queue, in order -/
def received (serial : Nat) : List Entry → List Delivered
  | [] => []
  | .received s m :: past => if s = serial then received serial past ++ [m] else received serial past
  | _ :: past => received serial past

end Depot

/-- a hub and those who use its local queues -/
structure Depot where
  hub : Hub
  /-- the endpoints that somebody has -/
  held : List Nat
  /-- the receivers that somebody has -/
  receivers : List Nat
  /-- what happened, the last first -/
  log : List Depot.Entry

namespace Depot

def opened (transport : Transport) (suffixes : Nat → String) (bufferSize : Nat) (providers : List Provider) : Depot :=
  ⟨.empty transport suffixes bufferSize providers, [], [], []⟩

/-- an errand is run; who does not have an endpoint or a receiver cannot use it -/
def step (s : Depot) : Errand → Depot
  | .openQueue name =>
    let (serial, hub) := s.hub.openQueue name
    ⟨hub, s.held, serial :: s.receivers, .opened name serial :: s.log⟩
  | .closeQueue name => { s with hub := (s.hub.closeQueue name).2, log := .closed name :: s.log }
  | .create d =>
    match s.hub.create d with
    | (.ok (.bound k _), hub) => ⟨hub, k :: s.held, s.receivers, .made k (s.hub.queueName? d) :: s.log⟩
    | (_, hub) => { s with hub }
  | .deliver k p raw =>
    if k ∈ s.held then
      match s.hub.deliver (s.hub.endpoint k) p raw with
      | (.done, hub) => { s with hub, log := .accepted k p raw :: s.log }
      | (_, hub) => { s with hub }
    else s
  | .destroy k =>
    if k ∈ s.held then { s with hub := (s.hub.destroy (s.hub.endpoint k)).2, log := .destroyed k :: s.log } else s
  | .letGo k => { s with held := s.held.filter fun j => j ≠ k }
  | .receive serial =>
    if serial ∈ s.receivers then
      match s.hub.poll serial s.held with
      | (.message m, hub) => { s with hub, log := .received serial m :: s.log }
      | (_, hub) => { s with hub }
    else s
  | .dropReceiver serial =>
    { s with hub := s.hub.dropReceiver serial, receivers := s.receivers.filter fun r => r ≠ serial }

def run (s : Depot) (errands : List Errand) : Depot := errands.foldl step s

theorem run_concat (s : Depot) (errands : List Errand) (errand : Errand) :
    s.run (errands ++ [errand]) = (s.run errands).step errand := by
  simp only [run, List.foldl_append, List.foldl_cons, List.foldl_nil]

/-! ## The state of queues, as the log tells it -/

/-- the hub stands as the log and the holders of receivers tell, with queues for `n` messages -/
structure Sound (n : Nat) (s : Depot) : Prop where
  size : s.hub.bufferSize = n
  named : ∀ name, s.hub.queues.find? name = registered name s.log
  kept : ∀ serial, received serial s.log ++ s.hub.waiting serial = accepted serial s.log
  bounded : ∀ b ∈ s.hub.inboxes, b.capacity = max n 1 ∧ b.buffer.length ≤ max n 1
  read : ∀ serial, serial ∈ s.receivers ↔ ∃ b, s.hub.inbox? serial = some b ∧ b.hasReceiver = true
  sourced : ∀ k, s.hub.target? k = origin k s.log
  ended : ∀ k, s.hub.destroyCount k = 0 ↔ .destroyed k ∉ s.log
  made : ∀ k ∈ s.held, k < s.hub.outlets.length

variable {n : Nat} {s : Depot}

theorem opened_sound (transport : Transport) (suffixes : Nat → String) (bufferSize : Nat)
    (providers : List Provider) : Sound bufferSize (opened transport suffixes bufferSize providers) where
  size := rfl
  named _ := rfl
  kept _ := rfl
  bounded _ hb := by cases hb
  read _ := by simp [opened, Hub.empty, Hub.inbox?]
  sourced _ := rfl
  ended _ := by simp [opened, Hub.empty, Hub.destroyCount]
  made _ hk := by cases hk

/-- a change of the hub that concerns no queue and no endpoint leaves all as it is -/
theorem Sound.of_same (hs : Sound n s) {hub : Hub} (hsame : s.hub.SameQueues hub)
    (houtlets : hub.outlets = s.hub.outlets) : Sound n { s with hub } where
  size := hsame.bufferSize.trans hs.size
  named name := by simpa only [hsame.queues] using hs.named name
  kept serial := by simpa only [hsame.waiting_eq] using hs.kept serial
  bounded := by simpa only [hsame.inboxes] using hs.bounded
  read serial := by simpa only [hsame.inbox?_eq] using hs.read serial
  sourced k := by simpa only [Hub.target?, houtlets] using hs.sourced k
  ended k := by simpa only [Hub.destroyCount, houtlets] using hs.ended k
  made := by simpa only [houtlets] using hs.made

theorem openQueue_sound (hs : Sound n s) (name : String) : Sound n (s.step (.openQueue name)) where
  size := hs.size
  named name' := by
    have hfind := hs.named name'
    by_cases hname : name' = name
    · simp [step, Hub.openQueue, registered, Table.find?_insert, hname]
    · simp [step, Hub.openQueue, registered, Table.find?_insert, hname, Ne.symm hname, hfind]
  kept serial := by
    have hkept := hs.kept serial
    by_cases hserial : serial = s.hub.inboxes.length
    · have hnone : s.hub.inbox? serial = none := List.getElem?_eq_none (Nat.le_of_eq hserial.symm)
      have hempty : (s.hub.openQueue name).2.waiting serial = s.hub.waiting serial := by
        simp only [Hub.waiting, Hub.inbox?_openQueue, if_pos hserial, hnone]
        rfl
      simpa only [step, received, accepted, hempty] using hkept
    · have hsame : (s.hub.openQueue name).2.waiting serial = s.hub.waiting serial := by
        simp only [Hub.waiting, Hub.inbox?_openQueue, if_neg hserial]
      simpa only [step, received, accepted, hsame] using hkept
  bounded b hb := by
    have hmem : b ∈ s.hub.inboxes ++ [Inbox.ofCapacity s.hub.bufferSize] := hb
    rcases List.mem_append.1 hmem with hold | hnew
    · exact hs.bounded b hold
    · rw [List.mem_singleton.1 hnew, hs.size]
      exact ⟨rfl, Nat.zero_le _⟩
  read serial := by
    simp only [step, List.mem_cons, Hub.inbox?_openQueue]
    by_cases hserial : serial = s.hub.inboxes.length
    · simp [hserial, Hub.openQueue, Inbox.ofCapacity]
    · simpa [hserial, Hub.openQueue] using hs.read serial
  sourced := hs.sourced
  ended k := (hs.ended k).trans (by simp [step])
  made := hs.made

theorem closeQueue_sound (hs : Sound n s) (name : String) : Sound n (s.step (.closeQueue name)) where
  size := hs.size
  named name' := by
    have hfind := hs.named name'
    by_cases hname : name' = name
    · simp [step, Hub.closeQueue, registered, Table.find?_erase, hname]
    · simp [step, Hub.closeQueue, registered, Table.find?_erase, hname, Ne.symm hname, hfind]
  kept := hs.kept
  bounded := hs.bounded
  read := hs.read
  sourced := hs.sourced
  ended k := (hs.ended k).trans (by simp [step])
  made := hs.made

theorem create_sound (hs : Sound n s) (d : DeliveryDefinition) : Sound n (s.step (.create d)) := by
  have hsame := Hub.create_sameQueues s.hub d
  rcases hc : s.hub.create d with ⟨f | e, hub⟩
  · have houtlets : hub.outlets = s.hub.outlets := by
      rcases Hub.create_cases s.hub d with ⟨_, -, ho⟩ | ⟨_, _, hok, -, -⟩
      · rwa [hc] at ho
      · rw [hc] at hok
        cases hok
    rw [hc] at hsame
    simp only [step, hc]
    exact hs.of_same hsame houtlets
  · obtain ⟨c, he, houtlets, hserial⟩ := Hub.create_serial? (e := e) (congrArg Prod.fst hc)
    rw [hc] at hsame houtlets
    simp only [step, hc, he]
    refine ⟨hsame.bufferSize.trans hs.size, ?_, ?_, ?_, ?_, ?_, ?_, ?_⟩
    · intro name
      rw [hsame.queues]
      exact hs.named name
    · intro serial
      rw [hsame.waiting_eq]
      exact hs.kept serial
    · rw [hsame.inboxes]
      exact hs.bounded
    · intro serial
      rw [hsame.inbox?_eq]
      exact hs.read serial
    · -- a new endpoint takes the queue that stands under its name, which the log tells as well
      intro k
      have hnames : s.hub.queues.find? = fun name => registered name s.log := funext hs.named
      rw [Hub.target?_append houtlets]
      by_cases hk : k = s.hub.outlets.length
      · simp only [hk, if_true, origin, hserial, hnames]
      · simp only [hk, if_false, origin, Ne.symm hk, hs.sourced]
    · intro k
      rw [Hub.destroyCount_append houtlets, hs.ended]
      simp
    · intro k hk
      rw [houtlets, List.length_append, List.length_singleton, Nat.lt_succ_iff]
      rcases List.mem_cons.1 hk with rfl | hk
      · exact Nat.le_refl _
      · exact Nat.le_of_lt (hs.made k hk)

/-- one inbox holds something else, but as much as it may -/
theorem Sound.bounded_setInbox (hs : Sound n s) {serial : Nat} {b b' : Inbox} (hb : s.hub.inbox? serial = some b)
    (hcapacity : b'.capacity = b.capacity) (hlength : b'.buffer.length ≤ max n 1) :
    ∀ x ∈ (s.hub.setInbox serial b').inboxes, x.capacity = max n 1 ∧ x.buffer.length ≤ max n 1 := by
  intro x hx
  rcases Hub.mem_setInbox hx with hold | rfl
  · exact hs.bounded x hold
  · exact ⟨hcapacity.trans (hs.bounded b (Hub.mem_inboxes hb)).1, hlength⟩

/-- one inbox holds something else, and has a receiver if it had one -/
theorem Sound.read_setInbox (hs : Sound n s) {serial : Nat} {b : Inbox} (hb : s.hub.inbox? serial = some b)
    (b' : Inbox) (hreceiver : b'.hasReceiver = b.hasReceiver) (serial' : Nat) :
    serial' ∈ s.receivers ↔ ∃ x, (s.hub.setInbox serial b').inbox? serial' = some x ∧ x.hasReceiver = true := by
  rw [hs.read, Hub.inbox?_setInbox hb]
  by_cases hserial : serial' = serial
  · simp [hserial, hb, hreceiver]
  · simp [hserial]

/-- a held endpoint of a queue takes a message, which goes to the end of that queue, or nothing happens to queues -/
theorem deliver_sound (hs : Sound n s) (k : Nat) (p : Payload) (raw : Bool) :
    Sound n (s.step (.deliver k p raw)) := by
  by_cases hheld : k ∈ s.held
  · simp only [step, hheld, if_true, Hub.endpoint]
    generalize (s.hub.outlets[k]?.map fun o => o.carrier.location).getD "" = l
    have houtlets := Hub.deliver_outlets s.hub (.bound k l) p raw
    cases ht : s.hub.target? k with
    | none =>
      have hsame := Hub.deliver_elsewhere ht l p raw
      have hkept := hs.of_same hsame houtlets
      have horigin : origin k s.log = none := (hs.sourced k).symm.trans ht
      split
      · rename_i hub heq
        rw [heq] at hkept
        refine ⟨hkept.size, hkept.named, ?_, hkept.bounded, hkept.read, hkept.sourced, ?_, hkept.made⟩
        · intro serial
          simpa [accepted, received, horigin] using hkept.kept serial
        · intro j
          simpa using hkept.ended j
      · rename_i heq
        rwa [heq] at hkept
    | some serial =>
      by_cases hroom : s.hub.destroyCount k = 0 ∧ s.hub.HasRoom serial
      · obtain ⟨hlive, b, hb, hreceiver, hlt⟩ := hroom
        obtain ⟨hub, hdeliver, hsame⟩ := Hub.deliver_of_room ht hlive hb hreceiver hlt l p raw
        have horigin : origin k s.log = some serial := (hs.sourced k).symm.trans ht
        have hcapacity := (hs.bounded b (Hub.mem_inboxes hb)).1
        replace houtlets : hub.outlets = s.hub.outlets := by rwa [hdeliver] at houtlets
        simp only [hdeliver]
        refine ⟨hsame.bufferSize.trans hs.size, ?_, ?_, ?_, ?_, ?_, ?_, ?_⟩
        · intro name
          rw [hsame.queues]
          exact hs.named name
        · intro serial'
          have hkept := hs.kept serial'
          rw [hsame.waiting_eq, Hub.waiting_setInbox hb, p.delivered_eq_parcel]
          simp only [received, accepted, horigin, Option.some.injEq]
          by_cases hserial : serial' = serial
          · subst hserial
            rw [Hub.waiting_of_inbox? hb] at hkept
            rw [if_pos rfl, if_pos rfl, ← hkept, List.append_assoc]
          · rwa [if_neg hserial, if_neg (Ne.symm hserial)]
        · rw [hsame.inboxes]
          refine hs.bounded_setInbox hb rfl ?_
          rw [List.length_append, List.length_singleton, ← hcapacity]
          exact hlt
        · intro serial'
          rw [hsame.inbox?_eq]
          exact hs.read_setInbox hb { b with buffer := b.buffer ++ [p.delivered raw] } rfl serial'
        · intro j
          simpa only [Hub.target?, houtlets, origin] using hs.sourced j
        · intro j
          simpa [Hub.destroyCount, houtlets] using hs.ended j
        · rw [houtlets]
          exact hs.made
      · obtain ⟨f, hf⟩ := Hub.deliver_refused ht hroom l p raw
        simpa only [hf] using hs
  · simpa only [step, hheld, if_false] using hs

theorem destroy_sound (hs : Sound n s) (k : Nat) : Sound n (s.step (.destroy k)) := by
  by_cases hheld : k ∈ s.held
  · have hsame := Hub.destroy_sameQueues s.hub (s.hub.endpoint k)
    have hlt := hs.made k hheld
    simp only [step, hheld, if_true]
    refine ⟨hsame.bufferSize.trans hs.size, ?_, ?_, ?_, ?_, ?_, ?_, ?_⟩
    · intro name
      rw [hsame.queues]
      exact hs.named name
    · intro serial
      rw [hsame.waiting_eq]
      exact hs.kept serial
    · rw [hsame.inboxes]
      exact hs.bounded
    · intro serial
      rw [hsame.inbox?_eq]
      exact hs.read serial
    · intro j
      rw [Hub.target?_destroy]
      exact hs.sourced j
    · intro j
      rw [Hub.destroyCount_destroy]
      by_cases hj : j = k
      · simp [hj, hlt, Hub.endpoint, Endpoint.handle?]
      · simp [hj, Ne.symm hj, Hub.endpoint, Endpoint.handle?, hs.ended]
    · rw [Hub.destroy_length]
      exact hs.made
  · simpa only [step, hheld, if_false] using hs

theorem letGo_sound (hs : Sound n s) (k : Nat) : Sound n (s.step (.letGo k)) :=
  ⟨hs.size, hs.named, hs.kept, hs.bounded, hs.read, hs.sourced, hs.ended,
    fun j hj => hs.made j (List.mem_filter.1 hj).1⟩

theorem receive_sound (hs : Sound n s) (serial : Nat) : Sound n (s.step (.receive serial)) := by
  by_cases hreader : serial ∈ s.receivers
  · obtain ⟨b, hb, -⟩ := (hs.read serial).1 hreader
    have hwaiting := Hub.waiting_of_inbox? hb
    simp only [step, hreader, if_true]
    cases hbuffer : b.buffer with
    | nil =>
      obtain ⟨hub, hpoll, hsame, houtlets⟩ := Hub.poll_of_nil (hwaiting.trans hbuffer) s.held
      have hkept := hs.of_same hsame houtlets
      simp only [hpoll]
      split
      · rename_i heq
        split at heq <;> cases heq
      · rename_i heq
        cases heq
        exact hkept
    | cons m ms =>
      have hpoll := Hub.poll_of_cons hb hbuffer s.held
      have hlength : ms.length ≤ max n 1 := by
        have hbounded := (hs.bounded b (Hub.mem_inboxes hb)).2
        rw [hbuffer, List.length_cons] at hbounded
        exact Nat.le_of_succ_le hbounded
      simp only [hpoll]
      refine ⟨hs.size, hs.named, ?_, hs.bounded_setInbox hb rfl hlength, hs.read_setInbox hb _ rfl, hs.sourced, ?_,
        hs.made⟩
      · intro serial'
        have hkept := hs.kept serial'
        rw [Hub.waiting_setInbox hb]
        simp only [received, accepted]
        by_cases hserial : serial' = serial
        · subst hserial
          rw [hwaiting, hbuffer] at hkept
          simpa using hkept
        · simpa only [hserial, Ne.symm hserial, if_false] using hkept
      · intro j
        exact (hs.ended j).trans (by simp)
  · simpa only [step, hreader, if_false] using hs

theorem dropReceiver_sound (hs : Sound n s) (serial : Nat) : Sound n (s.step (.dropReceiver serial)) := by
  simp only [step, Hub.dropReceiver]
  cases hb : s.hub.inbox? serial with
  | none =>
    refine ⟨hs.size, hs.named, hs.kept, hs.bounded, ?_, hs.sourced, hs.ended, hs.made⟩
    intro serial'
    rw [List.mem_filter, hs.read]
    by_cases hserial : serial' = serial
    · simp [hserial, hb]
    · simp [hserial]
  | some b =>
    have hbounded := hs.bounded b (Hub.mem_inboxes hb)
    refine ⟨hs.size, hs.named, ?_, hs.bounded_setInbox hb rfl hbounded.2, ?_, hs.sourced, hs.ended, hs.made⟩
    · intro serial'
      have hkept := hs.kept serial'
      rw [Hub.waiting_setInbox hb]
      by_cases hserial : serial' = serial
      · subst hserial
        rw [Hub.waiting_of_inbox? hb] at hkept
        rwa [if_pos rfl]
      · rwa [if_neg hserial]
    · intro serial'
      rw [List.mem_filter, hs.read, Hub.inbox?_setInbox hb]
      by_cases hserial : serial' = serial
      · simp [hserial, Inbox.dropReceiver]
      · simp [hserial]

/-- every errand keeps the hub as the log tells it -/
theorem step_sound (hs : Sound n s) (errand : Errand) : Sound n (s.step errand) := by
  cases errand with
  | openQueue name => exact openQueue_sound hs name
  | closeQueue name => exact closeQueue_sound hs name
  | create d => exact create_sound hs d
  | deliver k p raw => exact deliver_sound hs k p raw
  | destroy k => exact destroy_sound hs k
  | letGo k => exact letGo_sound hs k
  | receive serial => exact receive_sound hs serial
  | dropReceiver serial => exact dropReceiver_sound hs serial

theorem run_sound (hs : Sound n s) (errands : List Errand) : Sound n (s.run errands) := by
  induction errands using List.reverseRecOn with
  | nil => exact hs
  | append_singleton errands errand ih =>
    rw [run_concat]
    exact step_sound ih errand

/-! ## What users see -/

/-- what users of queues for `n` messages can rely on -/
structure Lossless (n : Nat) (s : Depot) : Prop where
  /-- what was received and what still waits is what was accepted, in that order, and arrives as `Payload.parcel` says -/
  fifo : ∀ serial, received serial s.log ++ s.hub.waiting serial = accepted serial s.log
  bounded : ∀ serial, (s.hub.waiting serial).length ≤ max n 1
  /-- an endpoint accepts a message if and only if it is in use, has a receiver, and its queue has room -/
  accepts : ∀ k serial, origin k s.log = some serial → ∀ p raw,
    (s.hub.deliver (s.hub.endpoint k) p raw).1 = .done ↔
      .destroyed k ∉ s.log ∧ serial ∈ s.receivers ∧ (s.hub.waiting serial).length < max n 1
  /-- an endpoint that does not accept a message changes nothing at all -/
  refuses : ∀ k serial, origin k s.log = some serial → ∀ p raw,
    (s.hub.deliver (s.hub.endpoint k) p raw).1 ≠ .done → (s.hub.deliver (s.hub.endpoint k) p raw).2 = s.hub
  /-- a receiver is told that nothing more can come when nothing waits, its queue stands under no name, and whatever
  endpoints of it somebody has are destroyed -/
  ends : ∀ serial, (s.hub.poll serial s.held).1 = .disconnected ↔
    s.hub.waiting serial = [] ∧ (∀ name, registered name s.log ≠ some serial) ∧
      ∀ k ∈ s.held, origin k s.log = some serial → .destroyed k ∈ s.log

theorem Sound.hasRoom_iff (hs : Sound n s) (serial : Nat) :
    s.hub.HasRoom serial ↔ serial ∈ s.receivers ∧ (s.hub.waiting serial).length < max n 1 := by
  rw [hs.read]
  constructor
  · rintro ⟨b, hb, hreceiver, hlt⟩
    rw [Hub.waiting_of_inbox? hb, ← (hs.bounded b (Hub.mem_inboxes hb)).1]
    exact ⟨⟨b, hb, hreceiver⟩, hlt⟩
  · rintro ⟨⟨b, hb, hreceiver⟩, hlt⟩
    rw [Hub.waiting_of_inbox? hb, ← (hs.bounded b (Hub.mem_inboxes hb)).1] at hlt
    exact ⟨b, hb, hreceiver, hlt⟩

theorem Sound.hasSender_iff (hs : Sound n s) (serial : Nat) :
    s.hub.hasSender serial s.held = true ↔
      (∃ name, registered name s.log = some serial) ∨
        ∃ k ∈ s.held, origin k s.log = some serial ∧ .destroyed k ∉ s.log := by
  simp only [Hub.hasSender_iff, hs.named, hs.sourced, hs.ended]

theorem Sound.accepts (hs : Sound n s) {k serial : Nat} (hk : origin k s.log = some serial) (p : Payload)
    (raw : Bool) :
    ((s.hub.deliver (s.hub.endpoint k) p raw).1 = .done ↔
      .destroyed k ∉ s.log ∧ serial ∈ s.receivers ∧ (s.hub.waiting serial).length < max n 1) ∧
    ((s.hub.deliver (s.hub.endpoint k) p raw).1 ≠ .done → (s.hub.deliver (s.hub.endpoint k) p raw).2 = s.hub) := by
  have ht : s.hub.target? k = some serial := (hs.sourced k).trans hk
  rw [← hs.ended, ← hs.hasRoom_iff, Hub.endpoint]
  by_cases hroom : s.hub.destroyCount k = 0 ∧ s.hub.HasRoom serial
  · obtain ⟨b, hb, hreceiver, hlt⟩ := hroom.2
    obtain ⟨hub, hdeliver, -⟩ := Hub.deliver_of_room ht hroom.1 hb hreceiver hlt _ p raw
    rw [hdeliver]
    exact ⟨iff_of_true rfl hroom, fun hno => absurd rfl hno⟩
  · obtain ⟨f, hdeliver⟩ := Hub.deliver_refused ht hroom _ p raw
    rw [hdeliver]
    exact ⟨iff_of_false (fun hdone => nomatch hdone) hroom, fun _ => rfl⟩

theorem Sound.ends (hs : Sound n s) (serial : Nat) :
    (s.hub.poll serial s.held).1 = .disconnected ↔
      s.hub.waiting serial = [] ∧ (∀ name, registered name s.log ≠ some serial) ∧
        ∀ k ∈ s.held, origin k s.log = some serial → .destroyed k ∈ s.log := by
  have hno : ¬ s.hub.hasSender serial s.held = true ↔
      (∀ name, registered name s.log ≠ some serial) ∧
        ∀ k ∈ s.held, origin k s.log = some serial → .destroyed k ∈ s.log := by
    simp [hs.hasSender_iff]
  rw [← hno]
  by_cases hnil : s.hub.waiting serial = []
  · obtain ⟨hub, hpoll, -⟩ := Hub.poll_of_nil hnil s.held
    rw [hpoll]
    by_cases hsender : s.hub.hasSender serial s.held = true <;> simp [hsender, hnil]
  · obtain ⟨b, hb⟩ : ∃ b, s.hub.inbox? serial = some b := by
      cases hb : s.hub.inbox? serial with
      | none => exact absurd (by simp only [Hub.waiting, hb]; rfl) hnil
      | some b => exact ⟨b, rfl⟩
    obtain ⟨m, ms, hbuffer⟩ := List.exists_cons_of_ne_nil ((Hub.waiting_of_inbox? hb) ▸ hnil)
    rw [Hub.poll_of_cons hb hbuffer]
    simp [hnil]

theorem Sound.lossless (hs : Sound n s) : Lossless n s where
  fifo := hs.kept
  bounded serial := by
    cases hb : s.hub.inbox? serial with
    | none => simp [Hub.waiting, hb]
    | some b =>
      rw [Hub.waiting_of_inbox? hb]
      exact (hs.bounded b (Hub.mem_inboxes hb)).2
  accepts _ _ hk p raw := (hs.accepts hk p raw).1
  refuses _ _ hk p raw := (hs.accepts hk p raw).2
  ends := hs.ends

/-- **Local queues lose nothing**, whatever is opened, closed, made, delivered, destroyed, dropped and received in
whatever order -/
theorem run_lossless (transport : Transport) (suffixes : Nat → String) (bufferSize : Nat)
    (providers : List Provider) (errands : List Errand) :
    Lossless bufferSize ((opened transport suffixes bufferSize providers).run errands) :=
  (run_sound (opened_sound transport suffixes bufferSize providers) errands).lossless

/-- a queue is opened twice under one name: the endpoint that was made in between keeps the first -/
example :
    let d : DeliveryDefinition := ⟨"local", "q", "p", [], true⟩
    let s := (opened (fun _ => .done) (fun _ => "") 1 [.queues]).run
      [.openQueue "q", .create d, .openQueue "q", .create d, .deliver 0 ⟨.text "a", "a"⟩ true, .receive 0]
    received 0 s.log = [⟨"text/plain", Text.Utf8.bytes "a", ⟨.text "a", "a"⟩⟩] ∧ s.hub.waiting 1 = [] ∧
      origin 1 s.log = some 1 :=
  ⟨rfl, rfl, rfl⟩

end Depot

end EventBroker
