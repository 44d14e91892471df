/-
What becomes of the endpoints that were made.

A hub only ever adds outlets, and an endpoint that it makes has the next handle. Destroying counts for the outlet of the
endpoint and for no other; delivering, and whatever is done to queues, leaves all outlets as they are.
-/
import Mathlib.Tactic.Common
import EventBroker.Filter.Engine

namespace EventBroker

namespace Hub

theorem carrier_outlets (h : Hub) (p : Provider) (d : DeliveryDefinition) :
    (h.carrier p d).2.outlets = h.outlets := by
  unfold carrier
  split
  · split
    · rfl
    · split <;> rfl
  · split <;> rfl
  · split <;> rfl
  · rfl

theorem of_map_eq_ok {ε α β : Type} {f : α → β} {x : Except ε α} {b : β} (hx : x.map f = .ok b) :
    ∃ a, x = .ok a ∧ b = f a := by
  cases x with
  | error e => cases hx
  | ok a => exact ⟨a, rfl, (Except.ok.inj hx).symm⟩

/-- what each provider makes a carrier of -/
theorem carrier_cases {h : Hub} {maker : Provider} {d : DeliveryDefinition} {c : Carrier}
    (hc : (h.carrier maker d).1 = .ok c) :
    (∃ i t a, maker = .push i t ∧ c = .push a) ∨
      (∃ base broker a subject, maker = .amqp base broker ∧ c = .topic a subject) ∨
      (∃ serial, maker = .queues ∧ h.queues.find? d.location = some serial ∧ c = .inbox d.location serial) ∨
      ∃ i t make x, maker = .plugIn i t make ∧ c = .plugIn x := by
  unfold carrier at hc
  split at hc
  · split at hc
    · simp only [reduceCtorEq] at hc
    · split at hc
      · simp only [Except.ok.injEq] at hc
        exact Or.inl ⟨_, _, _, rfl, hc.symm⟩
      · simp only [reduceCtorEq] at hc
  · split at hc
    · simp only [reduceCtorEq] at hc
    · obtain ⟨a, -, ha⟩ := of_map_eq_ok hc
      exact Or.inr (Or.inl ⟨_, _, a, _, rfl, ha⟩)
  · split at hc
    · rename_i serial hfind
      simp only [Except.ok.injEq] at hc
      exact Or.inr (Or.inr (Or.inl ⟨serial, rfl, hfind, hc.symm⟩))
    · simp only [reduceCtorEq] at hc
  · obtain ⟨x, -, hx⟩ := of_map_eq_ok hc
    exact Or.inr (Or.inr (Or.inr ⟨_, _, _, x, rfl, hx⟩))

/-- an endpoint that is made has the carrier that its provider makes, the next handle, and was never destroyed -/
theorem create_made {h : Hub} {d : DeliveryDefinition} {e : Endpoint} (he : (h.create d).1 = .ok e) :
    ∃ maker c, Provider.resolve h.providers d.identifier = .ok maker ∧ (h.carrier maker d).1 = .ok c ∧
      e = .bound h.outlets.length c.location ∧ (h.create d).2.outlets = h.outlets ++ [⟨c, 0⟩] := by
  unfold create at he ⊢
  cases hmaker : Provider.resolve h.providers d.identifier with
  | error f => simp only [hmaker, reduceCtorEq] at he
  | ok maker =>
    simp only [hmaker] at he ⊢
    have hsame := carrier_outlets h maker d
    rcases hc : h.carrier maker d with ⟨f | c, k⟩ <;> simp only [hc] at he hsame ⊢
    · simp only [reduceCtorEq] at he
    · refine ⟨maker, c, rfl, congrArg Prod.fst hc, ?_, ?_⟩
      · simpa only [bind, hsame, Except.ok.injEq, eq_comm] using he
      · simp only [bind, hsame]

/-- an endpoint that is made has the next handle and was never destroyed -/
theorem create_cases (h : Hub) (d : DeliveryDefinition) :
    (∃ f, (h.create d).1 = .error f ∧ (h.create d).2.outlets = h.outlets) ∨
      ∃ e c, (h.create d).1 = .ok e ∧ e.handle? = some h.outlets.length ∧
        (h.create d).2.outlets = h.outlets ++ [⟨c, 0⟩] := by
  unfold create
  split
  · exact Or.inl ⟨_, rfl, rfl⟩
  · rename_i p _
    have hsame := carrier_outlets h p d
    split
    · rename_i heq
      rw [heq] at hsame
      exact Or.inl ⟨_, rfl, hsame⟩
    · rename_i c h' heq
      rw [heq] at hsame
      have hsame : h'.outlets = h.outlets := hsame
      refine Or.inr ⟨_, c, rfl, ?_, ?_⟩
      · simp only [bind, Endpoint.handle?, hsame]
      · simp only [bind, hsame]

theorem enqueue_outlets (h : Hub) (name : String) (serial : Nat) (m : Delivered) :
    (h.enqueue name serial m).2.outlets = h.outlets := by
  unfold enqueue
  split
  · rfl
  · split <;> rfl

theorem carry_outlets (h : Hub) (c : Carrier) (p : Payload) (raw : Bool) :
    (h.carry c p raw).2.outlets = h.outlets := by
  unfold carry
  split
  · rfl
  · rfl
  · exact enqueue_outlets h _ _ _
  · rfl

theorem deliver_outlets (h : Hub) (e : Endpoint) (p : Payload) (raw : Bool) :
    (h.deliver e p raw).2.outlets = h.outlets := by
  unfold deliver
  split
  · rfl
  · split
    · rfl
    · rename_i outlet _
      split
      · rfl
      · have hsame := carry_outlets h outlet.carrier p raw
        split <;> rename_i heq <;> rw [heq] at hsame <;> exact hsame

@[simp] theorem destroy_length (h : Hub) (e : Endpoint) : (h.destroy e).2.outlets.length = h.outlets.length := by
  unfold destroy
  split
  · rfl
  · split
    · rfl
    · exact List.length_set

/-- destroying an endpoint counts for it and for no other -/
theorem destroyCount_destroy (h : Hub) (e : Endpoint) (k : Nat) :
    (h.destroy e).2.destroyCount k =
      if e.handle? = some k ∧ k < h.outlets.length then h.destroyCount k + 1 else h.destroyCount k := by
  cases e with
  | detached l => simp [destroy, Endpoint.handle?]
  | bound j l =>
    simp only [destroy, Endpoint.handle?, Option.some_inj]
    by_cases hj : j < h.outlets.length
    · rw [List.getElem?_eq_getElem hj]
      by_cases hk : j = k
      · subst hk
        simp [destroyCount, hj]
      · simp [destroyCount, hk]
    · have hnone : h.outlets[j]? = none := List.getElem?_eq_none (Nat.le_of_not_lt hj)
      rw [hnone]
      have hno : ¬ (j = k ∧ k < h.outlets.length) := fun hk => hj (hk.1 ▸ hk.2)
      rw [if_neg hno]

theorem destroyCount_destroy_of_ne (h : Hub) {e : Endpoint} {k : Nat} (hk : e.handle? ≠ some k) :
    (h.destroy e).2.destroyCount k = h.destroyCount k := by
  rw [destroyCount_destroy, if_neg fun hboth => hk hboth.1]

end Hub

namespace Engine

theorem apply_outlets (r : Rule) (event : Event) (h : Hub) : (apply r event h).2.outlets = h.outlets := by
  unfold apply
  split
  · exact Hub.deliver_outlets h _ _ _
  · rfl

theorem applyAll_outlets (event : Event) (rs : List Rule) (h : Hub) :
    (applyAll event rs h).2.outlets = h.outlets := by
  induction rs generalizing h with
  | nil => rfl
  | cons r rs ih => exact (ih _).trans (apply_outlets r event h)

theorem dispatch_outlets (e : Engine) (m : Message) (now : Timestamp) (h : Hub) :
    (e.dispatch m now h).2.outlets = h.outlets := by
  unfold dispatch
  split
  · exact applyAll_outlets _ _ h
  · rfl

end Engine

end EventBroker
