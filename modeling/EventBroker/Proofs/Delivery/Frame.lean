/-
What the hub leaves alone.

Making, using and letting go of endpoints changes neither what endpoints are made from, the `Supply`, nor which local
queues are open under which names. Both decide where options lead, and so the same options lead somewhere as long as
nobody opens or closes queues.
-/
import Mathlib.Tactic.Common
import EventBroker.Filter.Engine

namespace EventBroker

/-- what endpoints are made from, local queues apart -/
structure Supply where
  providers : List Provider
  /-- the suffixes that made-up topics get, one after the other -/
  suffixes : Nat → String

def Hub.supply (h : Hub) : Supply := ⟨h.providers, h.suffixes⟩

/-- two hubs have the same supply and the same open queues -/
structure Hub.SameSetting (h k : Hub) : Prop where
  supply : k.supply = h.supply
  queues : k.queues = h.queues

namespace Hub.SameSetting

theorem refl (h : Hub) : SameSetting h h := ⟨rfl, rfl⟩

theorem trans {h k l : Hub} (h₁ : SameSetting h k) (h₂ : SameSetting k l) : SameSetting h l :=
  ⟨h₂.supply.trans h₁.supply, h₂.queues.trans h₁.queues⟩

end Hub.SameSetting

namespace Hub

theorem carrier_setting (h : Hub) (p : Provider) (d : DeliveryDefinition) : SameSetting h (h.carrier p d).2 := by
  unfold carrier
  split
  · split
    · exact .refl h
    · split <;> exact .refl h
  · split
    · exact .refl h
    · exact ⟨rfl, rfl⟩
  · split <;> exact .refl h
  · exact .refl h

theorem create_setting (h : Hub) (d : DeliveryDefinition) : SameSetting h (h.create d).2 := by
  unfold create
  split
  · exact .refl h
  · rename_i p _
    have hc := carrier_setting h p d
    split
    · rename_i heq
      rwa [heq] at hc
    · rename_i heq
      rw [heq] at hc
      exact hc.trans ⟨rfl, rfl⟩

theorem enqueue_setting (h : Hub) (name : String) (serial : Nat) (m : Delivered) :
    SameSetting h (h.enqueue name serial m).2 := by
  unfold enqueue
  split
  · exact .refl h
  · split
    · exact ⟨rfl, rfl⟩
    · exact .refl h
    · exact .refl h

theorem carry_setting (h : Hub) (c : Carrier) (p : Payload) (raw : Bool) : SameSetting h (h.carry c p raw).2 := by
  unfold carry
  split
  · exact .refl h
  · exact .refl h
  · exact enqueue_setting h _ _ _
  · exact .refl h

theorem deliver_setting (h : Hub) (e : Endpoint) (p : Payload) (raw : Bool) :
    SameSetting h (h.deliver e p raw).2 := by
  unfold deliver
  split
  · exact .refl h
  · split
    · exact .refl h
    · rename_i outlet _
      split
      · exact .refl h
      · have hc := carry_setting h outlet.carrier p raw
        split <;> rename_i heq <;> rw [heq] at hc <;> exact ⟨hc.supply, hc.queues⟩

theorem destroy_setting (h : Hub) (e : Endpoint) : SameSetting h (h.destroy e).2 := by
  unfold destroy
  split
  · exact .refl h
  · split
    · exact .refl h
    · exact ⟨rfl, rfl⟩

end Hub

namespace Engine

theorem apply_setting (r : Rule) (event : Event) (h : Hub) : Hub.SameSetting h (apply r event h).2 := by
  unfold apply
  split
  · exact Hub.deliver_setting h _ _ _
  · exact .refl h

theorem applyAll_setting (event : Event) (rs : List Rule) (h : Hub) : Hub.SameSetting h (applyAll event rs h).2 := by
  induction rs generalizing h with
  | nil => exact .refl h
  | cons r rs ih => exact (apply_setting r event h).trans (ih _)

theorem dispatch_setting (e : Engine) (m : Message) (now : Timestamp) (h : Hub) :
    Hub.SameSetting h (e.dispatch m now h).2 := by
  unfold dispatch
  split
  · exact applyAll_setting _ _ h
  · exact .refl h

end Engine

end EventBroker
