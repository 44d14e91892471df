/-
A store whose changes fail now and then.

It stands before another store. Which of its changes fail, and with what, is fixed beforehand by their number: any
pattern of failures is one such store. A change that fails has changed nothing, and reading never fails.

- `change_cases`: a change fails and leaves the store behind as it was, or it is a change of the store behind.
- A flaky store is as loyal as the one behind.
-/
import EventBroker.Proofs.Store.Loyal

namespace EventBroker

structure FlakyStore (σ : Type) where
  base : σ
  /-- what each change fails with, if it fails -/
  failures : Nat → Option BrokerError
  /-- how many changes were tried -/
  tried : Nat

namespace FlakyStore

variable {σ : Type}

/-- change the store behind, unless it is time to fail -/
def change {α : Type} (f : FlakyStore σ) (act : σ → Except BrokerError α × σ) : Except BrokerError α × FlakyStore σ :=
  match f.failures f.tried with
  | some e => (.error e, { f with tried := f.tried + 1 })
  | none =>
    let (a, base) := act f.base
    (a, { f with base, tried := f.tried + 1 })

variable [SubscriptionStore σ]

instance : SubscriptionStore (FlakyStore σ) where
  put f s := f.change (SubscriptionStore.put · s)
  get f id :=
    let (s, base) := SubscriptionStore.get f.base id
    (s, { f with base })
  all f :=
    let (ss, base) := SubscriptionStore.all f.base
    (ss, { f with base })
  delete f id := f.change (SubscriptionStore.delete · id)
  renew f id t := f.change (SubscriptionStore.renew · id t)
  held f := SubscriptionStore.held f.base

omit [SubscriptionStore σ] in
theorem change_cases {α : Type} (f : FlakyStore σ) (act : σ → Except BrokerError α × σ) :
    ((∃ e, (f.change act).1 = .error e) ∧ f.failures f.tried ≠ none ∧ (f.change act).2.base = f.base) ∨
      (f.change act).1 = (act f.base).1 ∧ (f.change act).2.base = (act f.base).2 := by
  unfold change
  cases f.failures f.tried with
  | some e => exact Or.inl ⟨⟨e, rfl⟩, Option.some_ne_none e, rfl⟩
  | none => exact Or.inr ⟨rfl, rfl⟩

omit [SubscriptionStore σ] in
theorem change_counts {α : Type} (f : FlakyStore σ) (act : σ → Except BrokerError α × σ) :
    (f.change act).2.failures = f.failures ∧ (f.change act).2.tried = f.tried + 1 := by
  unfold change
  cases f.failures f.tried with
  | some e => exact ⟨rfl, rfl⟩
  | none => exact ⟨rfl, rfl⟩

theorem only_change [LoyalStore σ] {α : Type} {P : String → Nat → Prop} {f : FlakyStore σ}
    {act : σ → Except BrokerError α × σ} (h : LoyalStore.Only P f.base) (ha : LoyalStore.Only P (act f.base).2) :
    LoyalStore.Only P (f.change act).2.base := by
  rcases f.change_cases act with ⟨-, -, hbase⟩ | ⟨-, hbase⟩
  · rw [hbase]
    exact h
  · rw [hbase]
    exact ha

instance [LoyalStore σ] : LoyalStore (FlakyStore σ) where
  Only P f := LoyalStore.Only P f.base
  mono := LoyalStore.mono
  get_allowed h _ _ hs := LoyalStore.get_allowed h hs
  get_only h id := LoyalStore.get_only h id
  all_only h := LoyalStore.all_only h
  put_only h _ hs := only_change h (LoyalStore.put_only h hs)
  delete_only h id := only_change h (LoyalStore.delete_only h id)
  renew_only h id t := only_change h (LoyalStore.renew_only h id t)

end FlakyStore

end EventBroker
