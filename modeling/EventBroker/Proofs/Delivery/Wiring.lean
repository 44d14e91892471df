/-
What endpoints of the broker's own are connected to, and what a delivery through them does.

A hub never forgets what it made: an outlet keeps its carrier, and how often it was destroyed only goes up
(`Hub.Keeps`). With providers of the broker's own and no others, all outlets from some handle on have carriers of the
broker's own (`Hub.Own`), and an endpoint that is made is wired to one of them at its own address (`Hub.Wires`). Whoever
has an endpoint may deliver to it at any time; there are two outcomes:

- `Hub.silent_of_destroyed`: once destroyed, an endpoint fails, whatever the transport does, and the hub stays as it is.
- `Hub.passesOn_of_alive`: before that, it hands every payload to the transport, or puts it into the queue that it was
  made for.
-/
import EventBroker.Proofs.Delivery.Frame
import EventBroker.Proofs.Delivery.Queues

namespace EventBroker

/-- a provider of the broker's own -/
def Provider.IsOwn : Provider → Prop
  | .plugIn _ _ _ => False
  | _ => True

/-- a carrier of the broker's own; if it puts into a local queue, then `Q` tells that this queue has stood under the
name -/
def Carrier.OwnTo (Q : String → Nat → Prop) : Carrier → Prop
  | .inbox name serial => Q name serial
  | .plugIn _ => False
  | _ => True

theorem Carrier.OwnTo.mono {Q Q' : String → Nat → Prop} {c : Carrier} (h : c.OwnTo Q)
    (hQ : ∀ name serial, Q name serial → Q' name serial) : c.OwnTo Q' := by
  cases c with
  | inbox name serial => exact hQ name serial h
  | plugIn x => exact h
  | _ => trivial

namespace Hub

/-! ## Outlets are kept -/

/-- all outlets of the first hub are there in the second, with their carriers, and destroyed at least as often -/
def Keeps (h k : Hub) : Prop :=
  ∀ (i : Nat) (o : Outlet), h.outlets[i]? = some o → ∃ n, o.destroyed ≤ n ∧ k.outlets[i]? = some ⟨o.carrier, n⟩

namespace Keeps

theorem of_outlets {h k : Hub} (hsame : k.outlets = h.outlets) : h.Keeps k := by
  intro i o ho
  rw [hsame]
  exact ⟨o.destroyed, Nat.le_refl _, ho⟩

theorem refl (h : Hub) : h.Keeps h := of_outlets rfl

theorem trans {h k l : Hub} (h₁ : h.Keeps k) (h₂ : k.Keeps l) : h.Keeps l := by
  intro i o ho
  obtain ⟨n, hn, hk⟩ := h₁ i o ho
  obtain ⟨n', hn', hl⟩ := h₂ i ⟨o.carrier, n⟩ hk
  exact ⟨n', Nat.le_trans hn hn', hl⟩

theorem destroyCount_le {h k : Hub} (hk : h.Keeps k) (i : Nat) : h.destroyCount i ≤ k.destroyCount i := by
  unfold destroyCount
  cases ho : h.outlets[i]? with
  | none => exact Nat.zero_le _
  | some o =>
    obtain ⟨n, hn, hi⟩ := hk i o ho
    rw [hi]
    exact hn

end Keeps

theorem create_keeps (h : Hub) (d : DeliveryDefinition) : h.Keeps (h.create d).2 := by
  rcases create_cases h d with ⟨_, -, hsame⟩ | ⟨_, c, -, -, hmore⟩
  · exact .of_outlets hsame
  · intro i o ho
    have hlt : i < h.outlets.length := (List.getElem?_eq_some_iff.1 ho).1
    rw [hmore, List.getElem?_append_left hlt]
    exact ⟨o.destroyed, Nat.le_refl _, ho⟩

theorem destroy_keeps (h : Hub) (e : Endpoint) : h.Keeps (h.destroy e).2 := by
  unfold destroy
  split
  · exact .refl h
  · split
    · exact .refl h
    · rename_i k _ _ o hk
      intro i o' hi
      by_cases hik : k = i
      · subst hik
        have hlt : k < h.outlets.length := (List.getElem?_eq_some_iff.1 hk).1
        obtain rfl : o = o' := Option.some.inj (hk.symm.trans hi)
        exact ⟨o.destroyed + 1, Nat.le_succ _, List.getElem?_set_self hlt⟩
      · exact ⟨o'.destroyed, Nat.le_refl _, (List.getElem?_set_ne hik).trans hi⟩

/-! ## Carriers of the broker's own -/

/-- from the handle `first` on all outlets are of the broker's own, and they will be; `Q` tells which queues have stood
under which names -/
structure Own (Q : String → Nat → Prop) (first : Nat) (h : Hub) : Prop where
  made : first ≤ h.outlets.length
  providers : ∀ p ∈ h.providers, p.IsOwn
  queues : ∀ name serial, h.queues.find? name = some serial → Q name serial
  carriers : ∀ (k : Nat) (o : Outlet), first ≤ k → h.outlets[k]? = some o → o.carrier.OwnTo Q

/-- an endpoint is connected to an outlet from `first` on, at the address of the carrier there -/
def Wires (first : Nat) (h : Hub) (e : Endpoint) : Prop :=
  ∃ k c n, e = .bound k c.location ∧ first ≤ k ∧ h.outlets[k]? = some ⟨c, n⟩

theorem Wires.kept {first : Nat} {h k : Hub} {e : Endpoint} (he : Wires first h e) (hk : h.Keeps k) :
    Wires first k e := by
  obtain ⟨i, c, n, rfl, hi, ho⟩ := he
  obtain ⟨n', -, ho'⟩ := hk i ⟨c, n⟩ ho
  exact ⟨i, c, n', rfl, hi, ho'⟩

theorem Wires.first_le {first : Nat} {h : Hub} {e : Endpoint} (he : Wires first h e) {k : Nat}
    (hk : e.handle? = some k) : first ≤ k := by
  obtain ⟨i, c, n, rfl, hi, -⟩ := he
  cases hk
  exact hi

variable {Q : String → Nat → Prop} {first : Nat} {h : Hub}

namespace Own

/-- what changes neither outlets nor setting changes nothing here -/
theorem of_same (ho : h.Own Q first) {k : Hub} (houtlets : k.outlets = h.outlets) (hset : h.SameSetting k) :
    k.Own Q first := by
  have hproviders : k.providers = h.providers := congrArg Supply.providers hset.supply
  refine ⟨?_, ?_, ?_, ?_⟩
  · rw [houtlets]
    exact ho.made
  · rw [hproviders]
    exact ho.providers
  · rw [hset.queues]
    exact ho.queues
  · rw [houtlets]
    exact ho.carriers

/-- a provider of the broker's own makes a carrier of the broker's own, for a queue that stands under the name -/
theorem carrier_ownTo (ho : h.Own Q first) {d : DeliveryDefinition} {maker : Provider} {c : Carrier}
    (hmaker : Provider.resolve h.providers d.identifier = .ok maker) (hc : (h.carrier maker d).1 = .ok c) :
    c.OwnTo Q := by
  have hown : maker.IsOwn := by
    unfold Provider.resolve at hmaker
    split at hmaker
    · rename_i p hfind
      cases hmaker
      exact ho.providers _ (List.mem_of_find?_eq_some hfind)
    · cases hmaker
  rcases carrier_cases hc with ⟨i, t, a, rfl, rfl⟩ | ⟨base, broker, a, subject, rfl, rfl⟩ |
    ⟨serial, rfl, hfind, rfl⟩ | ⟨i, t, make, x, rfl, rfl⟩
  · trivial
  · trivial
  · exact ho.queues _ _ hfind
  · exact hown.elim

theorem create (ho : h.Own Q first) (d : DeliveryDefinition) :
    (h.create d).2.Own Q first ∧ ∀ e, (h.create d).1 = .ok e → Wires first (h.create d).2 e := by
  have hset := create_setting h d
  cases he : (h.create d).1 with
  | error f =>
    have hsame : (h.create d).2.outlets = h.outlets := by
      rcases create_cases h d with ⟨_, -, hsame⟩ | ⟨_, _, hok, -, -⟩
      · exact hsame
      · rw [he] at hok
        cases hok
    exact ⟨ho.of_same hsame hset, fun e hok => nomatch hok⟩
  | ok e =>
    obtain ⟨maker, c, hmaker, hc, rfl, hmore⟩ := create_made he
    have hproviders : (h.create d).2.providers = h.providers := congrArg Supply.providers hset.supply
    have hmade := ho.made
    refine ⟨⟨?_, ?_, ?_, ?_⟩, ?_⟩
    · rw [hmore, List.length_append]
      omega
    · rw [hproviders]
      exact ho.providers
    · rw [hset.queues]
      exact ho.queues
    · intro k o hk hget
      rw [hmore] at hget
      by_cases hlt : k < h.outlets.length
      · rw [List.getElem?_append_left hlt] at hget
        exact ho.carriers k o hk hget
      · rw [List.getElem?_append_right (Nat.le_of_not_lt hlt)] at hget
        obtain rfl : o = ⟨c, 0⟩ := List.mem_singleton.1 (List.mem_of_getElem? hget)
        exact ho.carrier_ownTo hmaker hc
    · intro e he'
      cases he'
      refine ⟨h.outlets.length, c, 0, rfl, hmade, ?_⟩
      rw [hmore, List.getElem?_append_right (Nat.le_refl _), Nat.sub_self]
      rfl

theorem destroy (ho : h.Own Q first) (e : Endpoint) : (h.destroy e).2.Own Q first := by
  have hset := destroy_setting h e
  have hproviders : (h.destroy e).2.providers = h.providers := congrArg Supply.providers hset.supply
  refine ⟨?_, ?_, ?_, ?_⟩
  · rw [destroy_length]
    exact ho.made
  · rw [hproviders]
    exact ho.providers
  · rw [hset.queues]
    exact ho.queues
  · intro k o hk hget
    have hlt : k < h.outlets.length := by
      have hbound := (List.getElem?_eq_some_iff.1 hget).1
      rwa [destroy_length] at hbound
    obtain ⟨n, -, hkept⟩ := destroy_keeps h e k h.outlets[k] (List.getElem?_eq_getElem hlt)
    obtain rfl : o = ⟨h.outlets[k].carrier, n⟩ := Option.some.inj (hget.symm.trans hkept)
    exact ho.carriers k h.outlets[k] hk (List.getElem?_eq_getElem hlt)

end Own

/-! ## Deliveries -/

/-- an endpoint fails whenever it is delivered to, whatever the transport does, and nothing in the hub changes -/
def Silent (h : Hub) (e : Endpoint) : Prop :=
  ∀ (transport : Transport) p raw, ∃ f,
    ({ h with transport } : Hub).deliver e p raw = (.failed f, { h with transport })

/-- an endpoint hands every payload to the transport, under its own address, and answers what the transport answers -/
def Sends (h : Hub) (e : Endpoint) : Prop :=
  ∃ subject, ∀ (transport : Transport) p raw, (({ h with transport } : Hub).deliver e p raw).1 =
    transport ⟨e.location, subject, (p.parcel raw).contentType, (p.parcel raw).body⟩

/-- an endpoint puts every payload at the end of this local queue while there is room, and other queues stay as they are;
while there is none, it fails and changes nothing -/
def Fills (h : Hub) (e : Endpoint) (serial : Nat) : Prop :=
  ∀ p raw,
    (h.HasRoom serial → ∃ k, h.deliver e p raw = (.done, k) ∧ k.waiting serial = h.waiting serial ++ [p.parcel raw] ∧
      ∀ other, other ≠ serial → k.waiting other = h.waiting other) ∧
    (¬ h.HasRoom serial → ∃ f, h.deliver e p raw = (.failed f, h))

theorem silent_detached (h : Hub) (l : String) : h.Silent (.detached l) := fun _ _ _ => ⟨_, rfl⟩

/-- an endpoint that was destroyed is silent -/
theorem silent_of_destroyed {k : Nat} {o : Outlet} (hk : h.outlets[k]? = some o) (hown : o.carrier.OwnTo Q)
    (hgone : o.destroyed ≠ 0) (l : String) : h.Silent (.bound k l) := by
  intro transport p raw
  have hrefuses : refuses o = true := by
    obtain ⟨c, n⟩ := o
    cases c with
    | plugIn x => exact hown.elim
    | push address => simpa [refuses] using hgone
    | topic address subject => simpa [refuses] using hgone
    | inbox name serial => simpa [refuses] using hgone
  refine ⟨.endpointDestroyed l, ?_⟩
  simp only [deliver, hk, hrefuses, if_true]

theorem silent_of_destroyCount (hown : h.Own Q first) {k : Nat} (hfirst : first ≤ k) (hgone : h.destroyCount k ≠ 0)
    (l : String) : h.Silent (.bound k l) := by
  cases ho : h.outlets[k]? with
  | none => simp [destroyCount, ho] at hgone
  | some o =>
    have hdestroyed : o.destroyed ≠ 0 := by simpa [destroyCount, ho] using hgone
    exact silent_of_destroyed ho (hown.carriers k o hfirst ho) hdestroyed l

/-- whether a delivery goes well or not, the endpoint answers what its carrier answers -/
theorem deliver_of_alive {k : Nat} {c : Carrier} (hk : h.outlets[k]? = some ⟨c, 0⟩) (l : String) (p : Payload)
    (raw : Bool) : (h.deliver (.bound k l) p raw).1 = (h.carry c p raw).1 := by
  have haccepts : refuses ⟨c, 0⟩ = false := by
    unfold refuses
    split <;> rfl
  simp only [deliver, hk, haccepts, Bool.false_eq_true, if_false]
  split <;> rename_i heq <;> rw [heq]

/-- an endpoint for a local queue that was not destroyed fills it -/
theorem fills_of_alive {k : Nat} {name : String} {serial : Nat} (hk : h.outlets[k]? = some ⟨.inbox name serial, 0⟩)
    (l : String) : h.Fills (.bound k l) serial := by
  have htarget : h.target? k = some serial := by
    simp only [target?, hk, Option.bind_some, Carrier.serial?]
  have hlive : h.destroyCount k = 0 := by
    simp only [destroyCount, hk, Option.map_some, Option.getD_some]
  intro p raw
  refine ⟨fun hroom => ?_, fun hno => deliver_refused htarget (fun hroom => hno hroom.2) l p raw⟩
  obtain ⟨b, hb, hreceiver, hlt⟩ := hroom
  obtain ⟨hub, hdeliver, hsame⟩ := deliver_of_room htarget hlive hb hreceiver hlt l p raw
  refine ⟨hub, hdeliver, ?_, fun other hother => ?_⟩
  · rw [hsame.waiting_eq, waiting_setInbox hb, if_pos rfl, waiting_of_inbox? hb, p.delivered_eq_parcel]
  · rw [hsame.waiting_eq, waiting_setInbox hb, if_neg hother]

/-- an endpoint that was not destroyed passes on what it is handed -/
theorem passesOn_of_alive {k : Nat} {c : Carrier} (hk : h.outlets[k]? = some ⟨c, 0⟩) (hown : c.OwnTo Q) :
    h.Sends (.bound k c.location) ∨
      ∃ name serial, c.location = Provider.queueIdentifier ++ ":" ++ name ∧ Q name serial ∧
        h.Fills (.bound k c.location) serial := by
  cases c with
  | push address =>
    refine Or.inl ⟨none, fun transport p raw => ?_⟩
    rw [← p.delivered_eq_parcel]
    exact deliver_of_alive (h := { h with transport }) hk address p raw
  | topic address subject =>
    refine Or.inl ⟨some subject, fun transport p raw => ?_⟩
    rw [← p.delivered_eq_parcel]
    exact deliver_of_alive (h := { h with transport }) hk address p raw
  | inbox name serial => exact Or.inr ⟨name, serial, rfl, hown, fills_of_alive hk _⟩
  | plugIn x => exact hown.elim

end Hub

end EventBroker
