/-
What a store of subscriptions does.

A store holds one subscription for an id. Reading may change a store too, such as what it keeps at hand, and so every
operation answers with the store as it is afterwards.
-/
import EventBroker.Subscription.Basic

namespace EventBroker

class SubscriptionStore (σ : Type) where
  /-- put a subscription in, instead of the one of its id -/
  put : σ → Subscription → Except BrokerError Unit × σ
  get : σ → (id : String) → Option Subscription × σ
  /-- all subscriptions that can be read -/
  all : σ → List Subscription × σ
  /-- take a subscription out -/
  delete : σ → (id : String) → Except BrokerError Subscription × σ
  /-- give a subscription another end -/
  renew : σ → (id : String) → Timestamp → Except BrokerError Subscription × σ
  /-- the handles of the endpoints that the store keeps in use -/
  held : σ → List Nat

/-- the handles of the endpoints of some subscriptions -/
def endpointHandles (ss : List Subscription) : List Nat := ss.filterMap fun s => s.endpoint.handle?

end EventBroker
