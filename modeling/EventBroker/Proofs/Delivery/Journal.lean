/-
What an endpoint has handed on.

`Hub.handed` are the deliveries of one endpoint, read from the journal. Making and destroying endpoints leaves them as
they are, and so does a delivery through another endpoint; a message that no rule hands to the endpoint adds nothing to
them (`Engine.dispatch_handed`).
-/
import EventBroker.Proofs.Delivery.Outlets

namespace EventBroker

/-- the deed is a delivery through this endpoint -/
def Deed.isDelivery (k : Nat) : Deed → Bool
  | .delivered handle _ _ _ => handle == k
  | .destroyed _ _ => false

namespace Hub

/-- the deliveries that were made through an endpoint, the last one first -/
def handed (h : Hub) (k : Nat) : List Deed := h.journal.filter (Deed.isDelivery k)

theorem handed_of_journal {h h' : Hub} (hsame : h'.journal = h.journal) (k : Nat) : h'.handed k = h.handed k :=
  congrArg (List.filter _) hsame

theorem carrier_journal (h : Hub) (p : Provider) (d : DeliveryDefinition) :
    (h.carrier p d).2.journal = h.journal := by
  unfold carrier
  split
  · split
    · rfl
    · split <;> rfl
  · split <;> rfl
  · split <;> rfl
  · rfl

theorem create_journal (h : Hub) (d : DeliveryDefinition) : (h.create d).2.journal = h.journal := by
  unfold create
  split
  · rfl
  · rename_i p _
    have hsame := carrier_journal h p d
    split <;> rename_i heq <;> rw [heq] at hsame <;> exact hsame

theorem destroy_handed (h : Hub) (e : Endpoint) (k : Nat) : (h.destroy e).2.handed k = h.handed k := by
  unfold destroy
  split
  · rfl
  · split
    · rfl
    · exact List.filter_cons_of_neg (by simp [Deed.isDelivery])

theorem enqueue_journal (h : Hub) (name : String) (serial : Nat) (m : Delivered) :
    (h.enqueue name serial m).2.journal = h.journal := by
  unfold enqueue
  split
  · rfl
  · split <;> rfl

theorem carry_journal (h : Hub) (c : Carrier) (p : Payload) (raw : Bool) : (h.carry c p raw).2.journal = h.journal := by
  unfold carry
  split
  · rfl
  · rfl
  · exact enqueue_journal h _ _ _
  · rfl

/-- what goes through another endpoint is none of its deliveries -/
theorem deliver_handed {h : Hub} {e : Endpoint} {k : Nat} (he : e.handle? ≠ some k) (p : Payload) (raw : Bool) :
    (h.deliver e p raw).2.handed k = h.handed k := by
  unfold deliver
  split
  · rfl
  · rename_i handle l
    have hne : handle ≠ k := fun heq => he (congrArg some heq)
    split
    · rfl
    · rename_i outlet _
      split
      · rfl
      · have hsame := carry_journal h outlet.carrier p raw
        split <;> rename_i heq <;> rw [heq] at hsame
        · refine (List.filter_cons_of_neg (by simp [Deed.isDelivery, hne])).trans ?_
          exact handed_of_journal hsame k
        · exact handed_of_journal hsame k

end Hub

namespace Engine

theorem applyAll_handed {event : Event} {rs : List Rule} {k : Nat} (hk : ∀ r ∈ rs, r.endpoint.handle? ≠ some k)
    (h : Hub) : (applyAll event rs h).2.handed k = h.handed k := by
  induction rs generalizing h with
  | nil => rfl
  | cons r rs ih =>
    have hfirst : (apply r event h).2.handed k = h.handed k := by
      unfold apply
      split
      · exact Hub.deliver_handed (hk r List.mem_cons_self) _ _
      · rfl
    exact (ih (fun r' hr' => hk r' (List.mem_cons_of_mem r hr')) _).trans hfirst

/-- a message goes through the endpoints of rules and no others -/
theorem dispatch_handed {e : Engine} {k : Nat} (hk : ∀ r ∈ e.rules.values, r.endpoint.handle? ≠ some k) (m : Message)
    (now : Timestamp) (h : Hub) : (e.dispatch m now h).2.handed k = h.handed k := by
  unfold dispatch
  split
  · exact applyAll_handed hk h
  · rfl

end Engine

end EventBroker
