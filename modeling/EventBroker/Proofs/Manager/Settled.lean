/-
Records that can be served again.

Whatever has been done to a broker, its records have options that compile and an address that they led to: that is
`Picture.Settled`, kept by every turn, shutdowns included. Such records can be served again by a hub with the same
providers, as far as it has their local queues (`CanServe.of_resolves`), and a restore that can serve all records keeps
them all: `Revives.keeps`, `Revives.origin`.
-/
import EventBroker.Proofs.Delivery.Address
import EventBroker.Proofs.Manager.Agreement

namespace EventBroker

open Function (update)

/-! ## Records that can be served -/

namespace Picture

variable {p : Picture}

/-- every record has options that compile and an address that they lead to, and every rule serves a record -/
structure Settled (p : Picture) : Prop where
  compiles : ∀ id r, p.records id = some r → ∃ f, compiled p.compiler r.options = .ok f
  resolves : ∀ id r, p.records id = some r → Resolves p.supply r.options r.location
  served : ∀ id rule, p.rules id = some rule → ∃ r, p.records id = some r ∧ rule.Serves p.compiler r

namespace Settled

theorem activate (h : p.Settled) {r : SubscriptionRecord} {rule : Rule} (hadm : p.Admits r rule) :
    (p.activate r rule).Settled := by
  refine ⟨fun k s hs => ?_, fun k s hs => ?_, fun k s hs => ?_⟩
  · rcases update_some_eq_some.1 hs with ⟨-, rfl⟩ | ⟨-, hs⟩
    · exact ⟨_, hadm.serves.predicate⟩
    · exact h.compiles k s hs
  · rcases update_some_eq_some.1 hs with ⟨-, rfl⟩ | ⟨-, hs⟩
    · exact hadm.resolves
    · exact h.resolves k s hs
  · rcases update_some_eq_some.1 hs with ⟨rfl, rfl⟩ | ⟨hk, hs⟩
    · exact ⟨r, Function.update_self _ _ _, hadm.serves⟩
    · obtain ⟨t, ht, hserves⟩ := h.served k s hs
      exact ⟨t, update_some_eq_some.2 (Or.inr ⟨hk, ht⟩), hserves⟩

theorem prolong (h : p.Settled) {r : SubscriptionRecord} (hr : p.records r.id = some r) (t : Timestamp) :
    (p.prolong r t).Settled := by
  refine ⟨fun k s hs => ?_, fun k s hs => ?_, fun k rule hrule => ?_⟩
  · rcases update_some_eq_some.1 hs with ⟨-, rfl⟩ | ⟨-, hs⟩
    · exact h.compiles r.id r hr
    · exact h.compiles k s hs
  · rcases update_some_eq_some.1 hs with ⟨-, rfl⟩ | ⟨-, hs⟩
    · exact (h.resolves r.id r hr).renewed t
    · exact h.resolves k s hs
  · obtain ⟨s, hs, hserves⟩ := h.served k rule hrule
    by_cases hk : k = r.id
    · rw [hk, hr] at hs
      cases hs
      exact ⟨_, update_some_eq_some.2 (Or.inl ⟨hk, rfl⟩), hserves.renewed t⟩
    · exact ⟨s, update_some_eq_some.2 (Or.inr ⟨hk, hs⟩), hserves⟩

/-- fewer records are settled as well, if they are those of the rules that are left -/
theorem fewer (h : p.Settled) {q : Picture} (hcompiler : q.compiler = p.compiler) (hsupply : q.supply = p.supply)
    (hrecords : ∀ id r, q.records id = some r → p.records id = some r)
    (hrules : ∀ id rule, q.rules id = some rule → p.rules id = some rule ∧ q.records id = p.records id) :
    q.Settled := by
  refine ⟨fun id r hr => ?_, fun id r hr => ?_, fun id rule hrule => ?_⟩
  · rw [hcompiler]
    exact h.compiles id r (hrecords id r hr)
  · rw [hsupply]
    exact h.resolves id r (hrecords id r hr)
  · obtain ⟨hrule, hsame⟩ := hrules id rule hrule
    rw [hsame, hcompiler]
    exact h.served id rule hrule

theorem remove (h : p.Settled) (id : String) : (p.remove id).Settled := by
  refine h.fewer rfl rfl (fun k r hr => (update_none_eq_some.1 hr).2) fun k rule hrule => ?_
  obtain ⟨hk, hrule⟩ := update_none_eq_some.1 hrule
  exact ⟨hrule, Function.update_of_ne hk _ _⟩

theorem drop (h : p.Settled) {id : String} (hnone : p.rules id = none) : (p.drop id).Settled := by
  refine h.fewer rfl rfl (fun k r hr => (update_none_eq_some.1 hr).2) fun k rule hrule => ⟨hrule, ?_⟩
  have hk : k ≠ id := by
    rintro rfl
    cases hnone.symm.trans hrule
  exact Function.update_of_ne hk _ _

theorem close (h : p.Settled) : p.close.Settled := h.fewer rfl rfl (fun _ _ hr => hr) fun _ _ hrule => by cases hrule

theorem revives {p' : Picture} {ids : List String} (h : p.Settled) (hrev : p.Revives ids p') : p'.Settled := by
  induction hrev with
  | done p => exact h
  | active _ _ ih => exact ih h
  | revived _ hadm _ ih => exact ih (h.activate hadm)
  | dropped _ hrule _ _ ih => exact ih (h.drop hrule)

end Settled

end Picture

namespace Picture

variable {p p' : Picture} {ids : List String}

/-- what can be served stays, at some address -/
theorem Revives.keeps (hrev : p.Revives ids p') {id : String} {r : SubscriptionRecord} (hr : p.records id = some r)
    (hcan : p.CanServe r.options) : ∃ location, p'.records id = some ⟨r.id, r.options, location⟩ := by
  induction hrev generalizing r with
  | done p => exact ⟨r.location, hr⟩
  | active _ _ ih => exact ih hr hcan
  | @revived p p' r₀ location ids rule hr₀ hadm _ ih =>
    by_cases hk : id = r₀.id
    · have hsame : r = r₀ := by
        rw [hk, hr₀] at hr
        exact (Option.some.inj hr).symm
      subst hsame
      have hnew : (p.activate ⟨r.id, r.options, location⟩ rule).records id = some ⟨r.id, r.options, location⟩ := by
        rw [hk]
        exact Function.update_self _ _ _
      obtain ⟨location', hlast⟩ := ih hnew hcan
      exact ⟨location', hlast⟩
    · have hold : (p.activate ⟨r₀.id, r₀.options, location⟩ rule).records id = some r := by
        rw [← hr]
        exact Function.update_of_ne hk _ _
      exact ih hold hcan
  | @dropped p p' r₀ ids hr₀ hrule hcannot _ ih =>
    have hk : id ≠ r₀.id := by
      rintro rfl
      rw [hr₀] at hr
      cases hr
      exact hcannot hcan
    have hold : (p.drop r₀.id).records id = some r := by
      rw [← hr]
      exact Function.update_of_ne hk _ _
    exact ih hold hcan

/-- nothing is stored that was not there -/
theorem Revives.origin (hrev : p.Revives ids p') {id : String} {r' : SubscriptionRecord}
    (hr' : p'.records id = some r') :
    ∃ r, p.records id = some r ∧ r'.id = r.id ∧ r'.options = r.options := by
  induction hrev with
  | done p => exact ⟨r', hr', rfl, rfl⟩
  | active _ _ ih => exact ih hr'
  | @revived p p' r₀ location ids rule hr₀ hadm _ ih =>
    obtain ⟨r, hr, hid, hoptions⟩ := ih hr'
    rcases update_some_eq_some.1 hr with ⟨rfl, rfl⟩ | ⟨-, hr⟩
    · exact ⟨r₀, hr₀, hid, hoptions⟩
    · exact ⟨r, hr, hid, hoptions⟩
  | @dropped p p' r₀ ids hr₀ hrule hcannot _ ih =>
    obtain ⟨r, hr, hid, hoptions⟩ := ih hr'
    exact ⟨r, (update_none_eq_some.1 hr).2, hid, hoptions⟩

end Picture

/-- the open queues of a hub include those that the options need -/
def Hub.HasQueues (h : Hub) (o : SubscribeOptions) : Prop :=
  ∀ d, o.delivery = some d → Provider.resolve h.providers d.identifier = .ok .queues →
    h.queues.contains d.location = true

/-- what led somewhere once can be served again -/
theorem Picture.CanServe.of_resolves {v : Records} {c : Compiler} {hub : Hub} {clock : Clock} {u : Supply}
    {o : SubscribeOptions} {location : String} (hproviders : hub.providers = u.providers)
    (hres : Resolves u o location) (hcompiles : ∃ f, compiled c o = .ok f) (hqueues : hub.HasQueues o) :
    (Picture.dormant v c hub clock).CanServe o := by
  obtain ⟨d, first, e, hd, rfl, he, -⟩ := hres
  refine ⟨⟨d, hd, fun k hsupply hk => ?_⟩, hcompiles⟩
  have hprov : k.providers = hub.providers := congrArg Supply.providers hsupply
  refine Hub.create_again (hprov.trans hproviders) he fun hq => ?_
  rw [hk]
  exact hqueues d hd (by rw [hproviders]; exact hq)

end EventBroker
