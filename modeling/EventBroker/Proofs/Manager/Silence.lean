/-
A subscription that has ended publishes nothing any more.

Subscriptions are handed out with their endpoints, and whoever has one may deliver to its endpoint at any time, whatever
else happens. So a `Move` is an op of the broker or such a delivery. A subscription is handed out by subscribing, by
looking it up and by listing (`Broker.hands`), from the rule of its id, from the cache of a store, or as a mere address;
it ends by unsubscribing, by an expiry that is not outdated, or with all others by a shutdown (`Broker.Ends`).

- `Broker.hands_owned`: what is handed out has an endpoint that belongs to its id, if it has one that was ever in use.
- `Broker.step_wired`, `Broker.play_wired`: rules keep working endpoints until their ids end, and no longer.
- `Broker.move_made`, `Broker.play_made`: an endpoint puts into the queue that stood under its name when it was made.
- `Broker.heard_while_active`: as long as a subscription that was handed out alive has not ended, its endpoint passes on
  every payload to the transport or to that queue; once it has ended, the endpoint fails for good and reaches nothing.
- `Broker.active_and_unheard`: the queue that now stands under the name need not be the one.

Premises: the providers are the broker's own, and the store begins without endpoints, as one does whose records come from
elsewhere.
-/
import Mathlib.Data.List.Induction
import EventBroker.Proofs.Manager.Stable
import EventBroker.Proofs.Manager.Wiring

namespace EventBroker

namespace Broker

variable {σ : Type} [SubscriptionStore σ]

/-- what happens to a broker and to endpoints that others have -/
inductive Move where
  | op (op : Op)
  /-- someone delivers to an endpoint -/
  | deliver (e : Endpoint) (p : Payload) (raw : Bool)

def move (b : Broker σ) : Move → Broker σ
  | .op op => b.step op
  | .deliver e p raw => { b with manager := { b.manager with hub := (b.manager.hub.deliver e p raw).2 } }

def play (b : Broker σ) (moves : List Move) : Broker σ := moves.foldl move b

theorem play_append (b : Broker σ) (moves moves' : List Move) : b.play (moves ++ moves') = (b.play moves).play moves' :=
  List.foldl_append

/-- the subscriptions that an op hands out -/
def hands (b : Broker σ) : Op → List Subscription
  | .subscribe o => ((Manager.subscribe o b.manager).bind fun r => r.1.toOption).toList
  | .look id => (Manager.getSubscription id b.manager).1.toList
  | .list => (Manager.subscriptions b.manager).1
  | _ => []

/-- an op ends an id: it is unsubscribed, it expires at the end that it has, or all are shut down -/
def Ends (b : Broker σ) (id : String) : Op → Prop
  | .unsubscribe i => i = id
  | .shutdown => True
  | .expire i => ∃ c, b.claimed[i]? = some c ∧ c.identity = id ∧ b.manager.EndsAt id c.endOfLife
  | _ => False

/-- no move ends the id -/
def Outlasts (b : Broker σ) (id : String) : List Move → Prop
  | [] => True
  | .op op :: moves => ¬ b.Ends id op ∧ (b.step op).Outlasts id moves
  | mv :: moves => (b.move mv).Outlasts id moves

/-- one of these moves made the endpoint of a handle, while this queue stood under the name -/
def MadeFrom (b : Broker σ) (moves : List Move) (handle : Nat) (name : String) (serial : Nat) : Prop :=
  ∃ earlier mv, earlier ++ [mv] <+: moves ∧
    (b.play earlier).manager.hub.outlets.length ≤ handle ∧
    handle < ((b.play earlier).move mv).manager.hub.outlets.length ∧
    (b.play earlier).manager.hub.queues.find? name = some serial

theorem MadeFrom.later {b : Broker σ} {moves moves' : List Move} {handle : Nat} {name : String} {serial : Nat}
    (h : b.MadeFrom moves handle name serial) (hstart : moves <+: moves') : b.MadeFrom moves' handle name serial := by
  obtain ⟨earlier, mv, hearlier, hmade⟩ := h
  exact ⟨earlier, mv, hearlier.trans hstart, hmade⟩

/-! ## Whose endpoints these are -/

variable [LoyalStore σ] {first : Nat} {owner owner' : Nat → Option String} {again again' : List Nat} {b : Broker σ}

theorem play_custody (h : b.manager.Custody first owner again []) (moves : List Move) :
    ∃ owner' again', Manager.Extends owner owner' ∧ (b.play moves).manager.Custody first owner' again' [] := by
  induction moves generalizing b owner again with
  | nil => exact ⟨owner, again, .refl owner, h⟩
  | cons mv moves ih =>
    cases mv with
    | op op =>
      obtain ⟨owner₁, hext₁, h₁⟩ := step_custody h op
      obtain ⟨owner₂, again₂, hext₂, h₂⟩ := ih h₁
      exact ⟨owner₂, again₂, hext₁.trans hext₂, h₂⟩
    | deliver e p raw =>
      have h₁ : (b.move (.deliver e p raw)).manager.Custody first owner again [] :=
        h.onHub (Hub.deliver_outlets b.manager.hub e p raw)
      exact ih h₁

/-- the endpoint of a rule belongs to the id of the rule -/
theorem owned_of_rule {m : Manager σ} (h : m.Custody first owner again []) {id : String} {e : Endpoint}
    (he : m.engine.endpoint? id = some e) {k : Nat} (hk : e.handle? = some k) : owner k = some id := by
  have hrule : m.handle? id = some k := by
    simp only [Manager.handle?, he, Option.bind_some]
    exact hk
  exact (h.rule_owns id k hrule).1

/-- an endpoint that is stored belongs to the id of its subscription -/
theorem owned_of_stored {id : String} {s : Subscription} (hfiled : s.Filed first id)
    (hallowed : s.Allowed (Manager.Belongs first owner) id) {k : Nat} (hk : s.endpoint.handle? = some k) :
    owner k = some s.id := by
  obtain ⟨hfirst, hid⟩ := hfiled k hk
  rw [hid]
  exact (hallowed k hk).resolve_left (Nat.not_lt.2 hfirst)

/-- what is told of a stored subscription has the endpoint in use if there is one, and the stored one otherwise -/
theorem live_owned {m : Manager σ} (h : m.Custody first owner again []) {s : Subscription}
    (hs : ∀ k, s.endpoint.handle? = some k → owner k = some s.id) :
    (∀ k, (m.withLiveEndpoint s).endpoint.handle? = some k → owner k = some (m.withLiveEndpoint s).id) ∧
      (m.engine.contains (m.withLiveEndpoint s).id = true →
        m.engine.endpoint? (m.withLiveEndpoint s).id = some (m.withLiveEndpoint s).endpoint) := by
  unfold Manager.withLiveEndpoint
  cases he : m.engine.endpoint? s.id with
  | some e => exact ⟨fun k hk => owned_of_rule h he hk, fun _ => he⟩
  | none =>
    refine ⟨hs, fun hc => ?_⟩
    have hfind : m.engine.rules.find? s.id = none := Option.map_eq_none_iff.1 he
    simp [Engine.contains, Table.contains, hfind] at hc

/-- an endpoint that belongs to an id without a rule was destroyed -/
theorem destroyed_of_no_rule {m : Manager σ} (h : m.Custody first owner again []) {id : String} {k : Nat}
    (hk : owner k = some id) (hnone : m.engine.endpoint? id = none) : m.hub.destroyCount k ≠ 0 := by
  have hrule : m.handle? id = none := by simp only [Manager.handle?, hnone, Option.bind_none]
  obtain ⟨hfirst, hlt⟩ := h.owned k id hk
  have hgone := h.gone k hfirst hlt List.not_mem_nil (h.not_inUse (Or.inr hk) hrule)
  omega

variable [KeepingStore σ] {h₀ : Hub} {E : String → Option Endpoint}

/-! ## Rules and their endpoints -/

theorem queue_wired (h : b.manager.Wired first h₀ E) (q : QueueOp) :
    (b.step (.queue q)).manager.Wired first h₀ E := by
  have houtlets := q.apply_outlets b.manager.hub
  have hproviders : (q.apply b.manager.hub).providers = b.manager.hub.providers :=
    congrArg Supply.providers (q.apply_supply b.manager.hub)
  refine h.onHub ⟨?_, ?_, fun _ _ _ => trivial, ?_⟩ (.of_outlets houtlets)
  · rw [houtlets]
    exact h.own.made
  · rw [hproviders]
    exact h.own.providers
  · rw [houtlets]
    exact h.own.carriers

/-- every op takes away the rules of the ids that it ends; all other rules stay, and have endpoints that work -/
theorem step_wired (h : b.manager.Wired first h₀ E) (op : Op) :
    (∀ id, b.Ends id op → (b.step op).manager.engine.endpoint? id = none) ∧
      ∀ E' : String → Option Endpoint, (∀ id e, E' id = some e → E id = some e ∧ ¬ b.Ends id op) →
        (b.step op).manager.Wired first h₀ E' := by
  have hspared : ∀ {m : Manager σ} {E' : String → Option Endpoint}, m.Wired first h₀ E →
      (∀ id e, E' id = some e → E id = some e ∧ ¬ b.Ends id op) → m.Wired first h₀ E' :=
    fun hm hE' => hm.forget fun id e he => (hE' id e he).1
  cases op with
  | subscribe o =>
    refine ⟨fun id hends => hends.elim, fun E' hE' => ?_⟩
    have hwired := (Manager.subscribe_wired h o).imp fun _ _ hdone => hspared hdone.1 hE'
    exact step_subscribe (P := fun m => m.Wired first h₀ E') (hspared h hE') hwired
  | renew id t => exact ⟨fun id hends => hends.elim, fun E' hE' => hspared (Manager.renew_wired h id t) hE'⟩
  | unsubscribe id =>
    obtain ⟨hnone, hrest⟩ := Manager.unsubscribe_wired h id
    refine ⟨fun i hends => ?_, fun E' hE' => ?_⟩
    · have hid : id = i := hends
      rw [← hid]
      exact hnone
    · refine hrest.forget fun i e he => Manager.except_eq_some.2 ⟨fun hid => ?_, (hE' i e he).1⟩
      exact (hE' i e he).2 hid.symm
  | restore => exact ⟨fun id hends => hends.elim, fun E' hE' => hspared (Manager.restore_wired h) hE'⟩
  | shutdown =>
    obtain ⟨hnone, hrest⟩ := Manager.shutdown_wired h
    refine ⟨fun id _ => hnone id, fun E' hE' => hrest.forget fun i e he => ?_⟩
    exact ((hE' i e he).2 trivial).elim
  | receive message =>
    exact ⟨fun id hends => hends.elim, fun E' hE' => hspared (Manager.receive_wired h message) hE'⟩
  | look id => exact ⟨fun id hends => hends.elim, fun E' hE' => hspared (Manager.lookUp_wired h id).2.2 hE'⟩
  | list => exact ⟨fun id hends => hends.elim, fun E' hE' => hspared (Manager.subscriptions_wired h) hE'⟩
  | queue q => exact ⟨fun id hends => hends.elim, fun E' hE' => hspared (queue_wired h q) hE'⟩
  | pass micros reading => exact ⟨fun id hends => hends.elim, fun E' hE' => hspared { h with } hE'⟩
  | takeUp => exact ⟨fun id hends => hends.elim, fun E' hE' => hspared (h.onScheduler _) hE'⟩
  | claim => exact ⟨fun id hends => hends.elim, fun E' hE' => hspared (h.onScheduler _) hE'⟩
  | expire i =>
    cases hc : b.claimed[i]? with
    | none =>
      rw [step_expire_none hc]
      refine ⟨fun id hends => ?_, fun E' hE' => hspared h hE'⟩
      obtain ⟨c, hsome, -⟩ := hends
      rw [hc] at hsome
      cases hsome
    | some c =>
      rw [step_expire_some hc]
      obtain ⟨hended, hoverdue⟩ := Manager.expire_wired h c.identity c.endOfLife
      refine ⟨fun id hends => ?_, fun E' hE' => ?_⟩
      · obtain ⟨c', hsome, rfl, hend⟩ := hends
        obtain rfl : c = c' := Option.some.inj (hc.symm.trans hsome)
        exact (hended hend).1
      · by_cases hend : b.manager.EndsAt c.identity c.endOfLife
        · refine (hended hend).2.forget fun id e he => Manager.except_eq_some.2 ⟨?_, (hE' id e he).1⟩
          rintro rfl
          exact (hE' _ e he).2 ⟨c, hc, rfl, hend⟩
        · exact hspared (hoverdue hend) hE'

theorem move_deliver_wired (h : b.manager.Wired first h₀ E) (e : Endpoint) (p : Payload) (raw : Bool) :
    (b.move (.deliver e p raw)).manager.Wired first h₀ E := by
  have houtlets := Hub.deliver_outlets b.manager.hub e p raw
  have hset := Hub.deliver_setting b.manager.hub e p raw
  exact h.onHub (h.own.of_same houtlets hset) (.of_outlets houtlets)

/-- over any moves rules have endpoints that work, and the rule of an id stays as it is while no move ends it -/
theorem play_wired (h : b.manager.Wired first h₀ E) (moves : List Move) :
    ∀ E' : String → Option Endpoint, (∀ id e, E' id = some e → E id = some e ∧ b.Outlasts id moves) →
      (b.play moves).manager.Wired first h₀ E' := by
  induction moves generalizing b E with
  | nil => exact fun E' hE' => h.forget fun id e he => (hE' id e he).1
  | cons mv moves ih =>
    intro E' hE'
    cases mv with
    | op op =>
      have hstep := (step_wired h op).2 E' fun id e he => ⟨(hE' id e he).1, (hE' id e he).2.1⟩
      exact ih hstep E' fun id e he => ⟨he, (hE' id e he).2.2⟩
    | deliver e p raw =>
      have hstep := (move_deliver_wired h e p raw).forget fun id e he => (hE' id e he).1
      exact ih hstep E' fun id e he => ⟨he, (hE' id e he).2⟩

theorem play_wired_any (h : b.manager.Wired first h₀ E) (moves : List Move) :
    (b.play moves).manager.Wired first h₀ fun _ => none :=
  play_wired h moves _ fun _ _ hno => nomatch hno

/-! ## Queues and their endpoints -/

omit [LoyalStore σ] [KeepingStore σ] in
/-- a move makes endpoints for queues that stand under their names before it -/
theorem move_made (hproviders : ∀ p ∈ b.manager.hub.providers, p.IsOwn) (mv : Move) {k : Nat} {o : Outlet}
    (hk : b.manager.hub.outlets.length ≤ k) (ho : (b.move mv).manager.hub.outlets[k]? = some o) :
    o.carrier.OwnTo fun name serial => b.manager.hub.queues.find? name = some serial := by
  set Q : String → Nat → Prop := fun name serial => b.manager.hub.queues.find? name = some serial
  have hold : (b.move mv).manager.hub.outlets ≠ b.manager.hub.outlets := by
    intro hsame
    rw [hsame] at ho
    exact Nat.not_lt.2 hk (List.getElem?_eq_some_iff.1 ho).1
  have hown : b.manager.hub.Own Q b.manager.hub.outlets.length :=
    ⟨Nat.le_refl _, hproviders, fun _ _ h => h,
      fun j _ hj hget => absurd (List.getElem?_eq_some_iff.1 hget).1 (Nat.not_lt.2 hj)⟩
  have hkeeps : Persistent fun m : Manager σ => m.hub.Own Q b.manager.hub.outlets.length :=
    .of_hub (fun _ d h => (h.create d).1) fun _ e h => h.destroy e
  cases mv with
  | deliver e p raw => exact absurd (Hub.deliver_outlets b.manager.hub e p raw) hold
  | op op =>
    have hstep := hkeeps.step hown op
      (fun message _ => hown.of_same (Engine.dispatch_outlets b.manager.engine message b.manager.clock.now b.manager.hub)
        (Engine.dispatch_setting b.manager.engine message b.manager.clock.now b.manager.hub))
      (fun q hq => by
        subst hq
        exact absurd (q.apply_outlets b.manager.hub) hold)
    exact hstep.carriers k o hk ho

/-- over any moves an endpoint puts into the queue that stood under its name when it was made -/
theorem play_made (h : b.manager.Wired first h₀ E) (moves : List Move) {k : Nat} {o : Outlet}
    (hk : b.manager.hub.outlets.length ≤ k) (ho : (b.play moves).manager.hub.outlets[k]? = some o) :
    o.carrier.OwnTo (b.MadeFrom moves k) := by
  induction moves using List.reverseRecOn generalizing o with
  | nil => exact absurd (List.getElem?_eq_some_iff.1 ho).1 (Nat.not_lt.2 hk)
  | append_singleton moves mv ih =>
    have hwired := play_wired_any h moves
    have hmoved : b.play (moves ++ [mv]) = (b.play moves).move mv := play_append b moves [mv]
    rw [hmoved] at ho
    by_cases hnew : (b.play moves).manager.hub.outlets.length ≤ k
    · refine (move_made hwired.own.providers mv hnew ho).mono fun name serial hfind => ?_
      exact ⟨moves, mv, List.prefix_refl _, hnew, (List.getElem?_eq_some_iff.1 ho).1, hfind⟩
    · -- an endpoint that was there keeps its carrier
      have hlt : k < (b.play moves).manager.hub.outlets.length := Nat.not_le.1 hnew
      obtain ⟨n, -, hkept⟩ := (play_wired_any hwired.anew [mv]).kept k _ (List.getElem?_eq_getElem hlt)
      obtain rfl := Option.some.inj (ho.symm.trans hkept)
      have hbefore := ih (List.getElem?_eq_getElem hlt)
      exact hbefore.mono fun name serial hmade => hmade.later (List.prefix_append _ _)

/-! ## What is handed out -/

/-- a subscription that is handed out has an endpoint that belongs to its id, if it ever was in use; and it has the
endpoint of the rule, if its id has one -/
theorem hands_owned (h : b.manager.Custody first owner again []) (hw : b.manager.Wired first h₀ E) {op : Op}
    (h' : (b.step op).manager.Custody first owner' again' []) (hext : Manager.Extends owner owner') {s : Subscription}
    (hs : s ∈ b.hands op) :
    (∀ k, s.endpoint.handle? = some k → owner' k = some s.id) ∧
      ((b.step op).manager.engine.contains s.id = true →
        (b.step op).manager.engine.endpoint? s.id = some s.endpoint) := by
  have hstored := KeepingStore.and hw.store (KeepingStore.only_iff.1 h.stored)
  have hlasting : Lasting fun id s => Subscription.Filed first id s ∧ s.Allowed (Manager.Belongs first owner) id :=
    ⟨fun id r => ⟨(Subscription.filed_lasting first).ofRecord id r, Subscription.allowed_ofRecord _ id r⟩,
      fun _ _ _ hr => hr⟩
  have howned : ∀ {id : String} {t : Subscription},
      t.Filed first id ∧ t.Allowed (Manager.Belongs first owner) id →
        ∀ k, t.endpoint.handle? = some k → owner' k = some t.id :=
    fun ht k hk => hext k _ (owned_of_stored ht.1 ht.2 hk)
  cases op with
  | subscribe o =>
    obtain ⟨⟨a, m'⟩, hanswer, hs⟩ := Option.bind_eq_some_iff.1 (Option.mem_toList.1 hs)
    have hrule : (b.step (.subscribe o)).manager.engine.endpoint? s.id = some s.endpoint := by
      cases a with
      | error f => cases hs
      | ok s' =>
        cases hs
        rw [step_subscribe_some hanswer]
        exact (Manager.subscribe_wired hw o _ m' hanswer).2 s rfl
    exact ⟨fun k hk => owned_of_rule h' hrule hk, fun _ => hrule⟩
  | look id =>
    simp only [hands, Option.mem_toList] at hs
    obtain ⟨t, ht, rfl⟩ := Option.map_eq_some_iff.1 hs
    exact live_owned h' (howned ((KeepingStore.get_keeps hlasting hstored id).1 t ht))
  | list =>
    obtain ⟨t, ht, rfl⟩ := List.mem_map.1 hs
    obtain ⟨id, hid⟩ := (KeepingStore.all_keeps hlasting hstored).1 t ht
    exact live_owned h' (howned hid)
  | _ => cases hs

/-! ## Heard and silent -/

/-- the endpoint of a rule was not destroyed -/
theorem alive_of_rule {m : Manager σ} (h : m.Custody first owner again []) (hw : m.Wired first h₀ E) {id : String}
    {e : Endpoint} (he : m.engine.endpoint? id = some e) :
    ∃ k c, e = .bound k c.location ∧ first ≤ k ∧ m.hub.outlets[k]? = some ⟨c, 0⟩ := by
  obtain ⟨k, c, n, rfl, hfirst, ho⟩ := hw.rules id e he
  have huse : m.InUse k := ⟨id, by simp only [Manager.handle?, he, Option.bind_some, Endpoint.handle?]⟩
  have hzero : n = 0 := by
    have halive := (h.alive k (Or.inr huse)).1
    simpa only [Hub.destroyCount, ho, Option.map_some, Option.getD_some] using halive
  exact ⟨k, c, rfl, hfirst, hzero ▸ ho⟩

/-- once an op has ended an id, an endpoint that belongs to it is silent, whatever comes after -/
theorem silent_of_ended (h : b.manager.Custody first owner again []) (hw : b.manager.Wired first h₀ E)
    {id : String} {ending : Op} (hend : b.Ends id ending) {e : Endpoint}
    (he : ∀ k, e.handle? = some k → owner k = some id) (after : List Move) :
    ((b.step ending).play after).manager.hub.Silent e := by
  obtain ⟨owner', hext, h'⟩ := step_custody h ending
  obtain ⟨hended, hwired⟩ := step_wired hw ending
  have hw' := (hwired (fun _ => none) fun _ _ hno => nomatch hno).anew
  have hafter := play_wired_any hw' after
  cases e with
  | detached l => exact Hub.silent_detached _ l
  | bound k l =>
    have howner : owner' k = some id := hext k id (he k rfl)
    have hgone := destroyed_of_no_rule h' howner (hended id hend)
    have hmore := hafter.kept.destroyCount_le k
    exact Hub.silent_of_destroyCount hafter.own (h'.owned k id howner).1 (by omega) l

/-- **A subscription is heard until it ends.** Take any run, and any subscription that an op of it hands out: by
subscribing, looking up or listing. While its id has a rule and no move has ended it, its endpoint passes every payload
on: it hands it to the transport at its address, or puts it at the end of the local queue that stood under its name when
the endpoint was made, as long as that queue takes messages. Once an op has ended the subscription, its endpoint fails
for good and reaches neither the transport nor a queue, whatever comes after. -/
theorem heard_while_active {store : σ} {hub : Hub} (hproviders : ∀ p ∈ hub.providers, p.IsOwn)
    (hs : LoyalStore.Only (fun _ _ => False) store) (c : Compiler) (t : Transformer) (clock : Clock)
    (ids : Nat → String) (before : List Move) (op : Op) {s : Subscription}
    (hhand : s ∈ ((opened store hub c t clock ids).play before).hands op) (between : List Move) :
    let handed := ((opened store hub c t clock ids).play before).step op
    (handed.manager.engine.contains s.id = true → handed.Outlasts s.id between →
      (handed.play between).manager.hub.Sends s.endpoint ∨
        ∃ handle name serial, s.endpoint = .bound handle (Provider.queueIdentifier ++ ":" ++ name) ∧
          (assembled store hub c t clock ids).MadeFrom (.op .restore :: before ++ .op op :: between) handle name serial ∧
          (handed.play between).manager.hub.Fills s.endpoint serial) ∧
    ∀ ending after, (handed.play between).Ends s.id ending →
      (((handed.play between).step ending).play after).manager.hub.Silent s.endpoint := by
  intro handed
  set start := assembled store hub c t clock ids
  have hnone : LoyalStore.Only (fun _ k => k < hub.outlets.length) store :=
    LoyalStore.mono (fun _ _ hno => hno.elim) hs
  obtain ⟨owner, hopened⟩ := opened_custody hnone c t clock ids
  obtain ⟨owner₀, again₀, -, hcustody₀⟩ := play_custody hopened before
  obtain ⟨owner₁, hext₁, hcustody₁⟩ := step_custody hcustody₀ op
  obtain ⟨owner₂, again₂, hext₂, hcustody₂⟩ := play_custody hcustody₁ between
  have hstart : start.manager.Wired hub.outlets.length hub fun _ => none :=
    Manager.assemble_wired hs hproviders (Engine.ofCompiler c t) rfl clock ids
  have hwired₀ := play_wired_any hstart (.op .restore :: before)
  have hwired₁ := play_wired_any hwired₀ [.op op]
  constructor
  · intro hactive hout
    have hrule := (hands_owned hcustody₀ hwired₀ hcustody₁ hext₁ hhand).2 hactive
    -- the rule of the id is the one that is told of, and no other
    have hwired₂ := play_wired hwired₁.anew between (fun i => if i = s.id then some s.endpoint else none)
      fun i e he => by
        split at he
        · rename_i hi
          cases he
          exact hi ▸ ⟨hrule, hout⟩
        · cases he
    have hlast := hwired₂.unchanged s.id s.endpoint (if_pos rfl)
    obtain ⟨k, c', he, hk, ho⟩ := alive_of_rule hcustody₂ hwired₂ hlast
    have hmade : c'.OwnTo (start.MadeFrom (.op .restore :: before ++ .op op :: between) k) := by
      refine play_made hstart (.op .restore :: before ++ .op op :: between) hk (o := ⟨c', 0⟩) ?_
      rw [play_append]
      exact ho
    rcases Hub.passesOn_of_alive ho hmade with hsends | ⟨name, serial, hl, hfrom, hfills⟩
    · exact Or.inl (he ▸ hsends)
    · exact Or.inr ⟨k, name, serial, hl ▸ he, hfrom, he ▸ hfills⟩
  · intro ending after hend
    have howned := (hands_owned hcustody₀ hwired₀ hcustody₁ hext₁ hhand).1
    exact silent_of_ended hcustody₂ (play_wired_any hwired₁ between) hend (fun k hk => hext₂ k _ (howned k hk)) after

/-- a subscription for a local queue is heard until it is unsubscribed, and a restore in between changes nothing -/
theorem heard_until_unsubscribed :
    let s : Subscription := ⟨"0", sampleOptions none, .bound 1 "local:q"⟩
    let subscribed := sample.step (.subscribe (sampleOptions none))
    s ∈ sample.hands (.subscribe (sampleOptions none)) ∧
      (∃ serial, (subscribed.play [.op .restore]).manager.hub.Fills s.endpoint serial) ∧
      (((subscribed.play [.op .restore]).step (.unsubscribe "0")).play [.op .restore]).manager.hub.Silent s.endpoint := by
  intro s subscribed
  have hhand : s ∈ sample.hands (.subscribe (sampleOptions none)) := by decide
  have hproviders : ∀ p ∈ sampleHub.providers, p.IsOwn := by
    intro p hp
    rw [List.mem_singleton.1 hp]
    trivial
  obtain ⟨hheard, hsilent⟩ := heard_while_active hproviders (sampleStore_only _) Compiler.regex .standard ⟨⟨0⟩⟩
    (fun n => toString n) [] _ hhand [.op .restore]
  have hactive : subscribed.manager.engine.contains "0" = true := by decide
  refine ⟨hhand, ?_, hsilent (.unsubscribe "0") [.op .restore] rfl⟩
  rcases hheard hactive ⟨fun hends => hends.elim, trivial⟩ with ⟨subject, hsends⟩ | ⟨k, name, serial, -, -, hfills⟩
  · -- a transport that always crashes does not get the message
    have hcrash := congrArg Reply.isDone (hsends (fun _ => .crashed none) ⟨.text "", ""⟩ false)
    exact absurd hcrash (by decide)
  · exact ⟨serial, hfills⟩

/-- Two subscriptions that are active, looked up as before, and not heard where they should be. Once a queue is opened
anew under its name, the endpoint of one still puts everything into the queue that stood there first; and once messages
have filled its queue, that of the other fails. -/
theorem active_and_unheard :
    let s : Subscription := ⟨"0", sampleOptions none, .bound 1 "local:q"⟩
    let subscribed := sample.step (.subscribe (sampleOptions none))
    let reopened := subscribed.step (.queue (.openUp "q"))
    let full := subscribed.run [.receive (.text "x"), .receive (.text "y")]
    (Manager.getSubscription "0" reopened.manager).1 = some s ∧ reopened.manager.engine.contains "0" = true ∧
      reopened.manager.hub.queues.find? "q" = some 1 ∧
      (∀ p raw, ∃ hub, reopened.manager.hub.deliver s.endpoint p raw = (.done, hub) ∧
        hub.waiting 1 = [] ∧ hub.waiting 0 = [p.parcel raw]) ∧
    (Manager.getSubscription "0" full.manager).1 = some s ∧ full.manager.engine.contains "0" = true ∧
      ∀ p raw, ∃ f, full.manager.hub.deliver s.endpoint p raw = (.failed f, full.manager.hub) := by
  intro s subscribed reopened full
  have hreopened : reopened.manager.hub.Fills s.endpoint 0 := Hub.fills_of_alive (by rfl) "local:q"
  have hfull : full.manager.hub.Fills s.endpoint 0 := Hub.fills_of_alive (by rfl) "local:q"
  have hroom : reopened.manager.hub.HasRoom 0 := ⟨⟨4, [], true⟩, by rfl, rfl, by decide⟩
  have hnone : ¬ full.manager.hub.HasRoom 0 := by
    have hlengths : (full.manager.hub.inbox? 0).map (fun b => (b.buffer.length, b.capacity)) = some (4, 4) := by decide
    rintro ⟨b, hb, -, hlt⟩
    rw [hb, Option.map_some, Option.some.injEq, Prod.mk.injEq] at hlengths
    omega
  refine ⟨by decide, by decide, by decide, fun p raw => ?_, by decide, by decide, fun p raw => (hfull p raw).2 hnone⟩
  obtain ⟨hub, hdone, hfirst, hothers⟩ := (hreopened p raw).1 hroom
  exact ⟨hub, hdone, hothers 1 (by decide), hfirst⟩

end Broker

end EventBroker
