import CommercePlatform.Lib.Machine
import CommercePlatform.Warehouse.Boundary
import CommercePlatform.Warehouse.DataTests
import CommercePlatform.Warehouse.Incremental
/-!
# Chains of builds

Batches are committed with increasing batch ids, and a build may succeed after any of
them, that is, pass its data tests. The boundary then never skips a batch, so every
build recomputes the keys the new batches affect; whether the facts are those of a full
refresh depends on what the affected keys miss (`ParentsKept`).

The invariant of a chain (`ChainInv`) has two parts. What was committed after the last
build lies above the boundary, because the boundary is a committed batch id and ids
increase; so "above the boundary" and "new since the last build" are the same rows. And
the facts are `Maintained`: `fct_order` and `fct_subscription_payment` hold the rows of
a full refresh of the last built catalog, the two facts below the order hold them for
the orders that were committed, since an item or payment of an order that is not there
yet is in no affected key. A commit moves the first part and leaves the second; a build
takes the second to the new catalog by the four lemmas of `Warehouse.Incremental`.

`UpToDate` compares the facts with the committed catalog after a build, and there are
two ways to it:

- `upToDate_of_closed`: every batch is committed with the parents of its rows, so every
  order is present;
- `upToDate_of_late`: a parent may come in a later batch, and the facts are up to date
  after every build that sees the orders of all items and payments.

Both ask that every incremental build found the parents it did not recompute unchanged.
What the rows have to satisfy for that is the subject of `Closed`; here it stays a
condition on the builds, and `lateTier` is a run that fails it. A subscription payment
is built without a fact row, since its customer has no tier; the tier comes a batch
later with an `updated_at` after the payment, so no arm recomputes the payment, while a
full refresh finds the first version in force before its own time. All its builds pass
their tests.

Mirroring notes vs the code:

- A build that fails a test is quarantined and changes neither the published file nor
  the boundary, so it is no event of the chain.
- The dimensions are tables rebuilt by every build, hence functions of the catalog; only
  the facts are state.
-/

namespace CommercePlatform.Warehouse

open Lib

/-- Committed objects, the catalog the last build read, and the warehouse. -/
structure Chain where
  committed : Catalog
  built : Catalog
  mart : Mart

/-- Nothing committed, nothing built. -/
def Chain.empty : Chain := ⟨[], [], Mart.empty⟩

/-- One event of the chain. -/
inductive ChainAct where
  /-- The table batches of one run are committed. -/
  | commit (batch : BatchIdentity) (objects : List (Timestamp × ObjectRows))
  /-- A build of the committed catalog succeeds. -/
  | build (full : Bool)

/-- The objects of one batch. -/
def batchObjects (batch : BatchIdentity) (objects : List (Timestamp × ObjectRows)) : Catalog :=
  objects.map fun o => committedObject batch o.1 o.2

section Models

variable (engine : Engine)

/-- Batch ids increase in commit order, and a build that succeeds passes its tests on the facts
it computes. -/
def Chain.Admits (s : Chain) : ChainAct → Prop
  | .commit batch _ => ∀ o ∈ s.committed, o.batchId < batch.batchId
  | .build full => s.mart.Succeeds engine full s.committed

instance (s : Chain) (a : ChainAct) : Decidable (s.Admits engine a) :=
  match a with
  | .commit batch _ => inferInstanceAs (Decidable (∀ o ∈ s.committed, o.batchId < batch.batchId))
  | .build full => inferInstanceAs (Decidable (s.mart.Succeeds engine full s.committed))

/-- The effect of an event. -/
def Chain.after (s : Chain) : ChainAct → Chain
  | .commit batch objects => { s with committed := s.committed ++ batchObjects batch objects }
  | .build full =>
    { s with built := s.committed, mart := s.mart.build engine full s.committed }

/-- One step of the chain. -/
def Chain.Step (s : Chain) (a : ChainAct) (t : Chain) : Prop :=
  s.Admits engine a ∧ t = s.after engine a

/-- The facts are those a full refresh computes from the committed catalog. -/
def UpToDate (s : Chain) : Prop :=
  ∃ f, s.mart.facts = some f ∧ SameFacts f (fullRefresh engine s.committed)

/-- An incremental build finds the parents it does not recompute as the last build left them. It
speaks of the two catalogs and the boundary. -/
def ParentsHold (s : Chain) : ChainAct → Prop
  | .build false =>
    s.mart.facts ≠ none → ParentsKept engine s.built s.committed s.mart.bound
  | _ => True

/-- Every row is committed with its parents: an order's customer and the tier of
that customer, the order of an item or payment, the subscription of a
subscription payment and the tier of its customer. -/
structure ReferentiallyClosed (c : Catalog) : Prop where
  orders : ∀ o ∈ c.rows ObjectRows.ordersOf, ∃ r ∈ c.rows ObjectRows.customersOf,
    r.row.customerId = o.row.customerId ∧
    ∃ v ∈ c.rows ObjectRows.customerMembershipTiersOf,
      v.row.customerUniqueId = r.row.customerUniqueId
  items : ∀ i ∈ c.rows ObjectRows.orderItemsOf, ∃ o ∈ c.rows ObjectRows.ordersOf,
    o.row.orderId = i.row.orderId
  payments : ∀ p ∈ c.rows ObjectRows.orderPaymentsOf, ∃ o ∈ c.rows ObjectRows.ordersOf,
    o.row.orderId = p.row.orderId
  subscriptionPayments : ∀ p ∈ c.rows ObjectRows.subscriptionPaymentsOf,
    ∃ s ∈ c.rows ObjectRows.customerSubscriptionsOf,
      s.row.subscriptionId = p.row.subscriptionId ∧
      ∃ v ∈ c.rows ObjectRows.customerMembershipTiersOf,
        v.row.customerUniqueId = s.row.customerUniqueId

instance (c : Catalog) : Decidable (ReferentiallyClosed c) :=
  decidable_of_iff (_ ∧ _ ∧ _ ∧ _)
    ⟨fun ⟨orders, items, payments, subscriptionPayments⟩ =>
      ⟨orders, items, payments, subscriptionPayments⟩,
    fun h => ⟨h.orders, h.items, h.payments, h.subscriptionPayments⟩⟩

/-- Every item and payment of the catalog has its order. -/
structure OrdersPresent (c : Catalog) : Prop where
  items : ∀ i ∈ stgOrderItems c, OrderPresent c i.row.orderId
  payments : ∀ p ∈ stgPayments c, OrderPresent c p.row.orderId

/-! ## The invariant of a chain -/

/-- The facts after a chain: two are those of a full refresh, the two below the order are so for
the orders that are present. -/
structure Maintained (c : Catalog) (f : Facts) : Prop where
  order : SameRows f.order (fctOrder engine c)
  orderItem : AgreesOn FctOrderItem.orderId (OrderPresent c) f.orderItem (fctOrderItem c)
  orderPayment :
    AgreesOn FctOrderPayment.orderId (OrderPresent c) f.orderPayment (fctOrderPayment engine c)
  subscriptionPayment : SameRows f.subscriptionPayment (fctSubscriptionPayment engine c)

/-- What holds in every state of a chain. -/
structure ChainInv (s : Chain) : Prop where
  /-- What was committed after the last build lies above the boundary. -/
  above : ∃ new, s.committed = s.built ++ new ∧ Above s.mart.bound new
  /-- The boundary is a committed batch id, or the empty text. -/
  bound : s.mart.bound = "" ∨ ∃ o ∈ s.committed, o.batchId = s.mart.bound
  facts : ∀ f, s.mart.facts = some f → Maintained engine s.built f

variable {engine}

theorem Maintained.fullRefresh (c : Catalog) : Maintained engine c (fullRefresh engine c) :=
  ⟨SameRows.refl _, AgreesOn.refl _ _ _, AgreesOn.refl _ _ _, SameRows.refl _⟩

/-- One incremental build. -/
theorem Maintained.incremental {c new : Catalog} {bound : String} {f : Facts}
    (h : Maintained engine c f) (hnew : Above bound new)
    (hkept : ParentsKept engine c (c ++ new) bound) :
    Maintained engine (c ++ new) (incremental engine (c ++ new) bound f) where
  order := fctOrder_maintained hnew hkept h.order
  orderItem := fctOrderItem_maintained hnew h.orderItem
  orderPayment := fctOrderPayment_maintained hnew hkept h.orderPayment
  subscriptionPayment := fctSubscriptionPayment_maintained hnew hkept h.subscriptionPayment

/-- With every order present, the maintained facts are those of a full refresh. -/
theorem Maintained.sameFacts {c : Catalog} {f : Facts} (h : Maintained engine c f)
    (hpresent : OrdersPresent c) : SameFacts f (Warehouse.fullRefresh engine c) where
  order := h.order
  orderItem := by
    refine h.orderItem.sameRows fun r hr => ?_
    obtain ⟨i, hi, rfl⟩ := List.mem_map.1 hr
    exact hpresent.items i hi
  orderPayment := by
    refine h.orderPayment.sameRows fun r hr => ?_
    obtain ⟨p, hp, hr⟩ := List.mem_flatMap.1 hr
    rw [orderId_of_fctOrderPaymentRows hr]
    exact hpresent.payments p hp
  subscriptionPayment := h.subscriptionPayment

/-- The boundary a build leaves is the old one or a batch id it showed. -/
theorem bound_build_cases (engine : Engine) (w : Mart) (full : Bool) (c : Catalog) :
    (w.build engine full c).bound = w.bound ∨
      (w.build engine full c).bound ∈ shownBatchIds engine c := by
  rcases (bound_build engine w full c _).1 (le_refl _) with h | ⟨b, hb, h⟩
  · exact Or.inl (le_antisymm h ((bound_build engine w full c _).2 (Or.inl (le_refl _))))
  · have hle := (bound_build engine w full c b).2 (Or.inr ⟨b, hb, le_refl _⟩)
    rw [le_antisymm h hle]
    exact Or.inr hb

/-- The boundary lies below every later batch. -/
theorem ChainInv.bound_lt {s : Chain} (h : ChainInv engine s) {batch : BatchIdentity}
    (hids : ∀ o ∈ s.committed, o.batchId < batch.batchId) : s.mart.bound < batch.batchId := by
  rcases h.bound with h₀ | ⟨o, ho, hb⟩
  · rw [h₀]
    exact batch.empty_lt_batchId
  · rw [← hb]
    exact hids o ho

/-- A commit keeps the invariant. -/
theorem ChainInv.commit {s : Chain} (h : ChainInv engine s) {batch : BatchIdentity}
    {objects : List (Timestamp × ObjectRows)}
    (hids : ∀ o ∈ s.committed, o.batchId < batch.batchId) :
    ChainInv engine (s.after engine (.commit batch objects)) := by
  obtain ⟨new, hc, habove⟩ := h.above
  simp only [Chain.after]
  refine ⟨⟨new ++ batchObjects batch objects, by simp [hc], fun o ho => ?_⟩, ?_, h.facts⟩
  · rcases List.mem_append.1 ho with ho | ho
    · exact habove o ho
    · obtain ⟨x, -, rfl⟩ := List.mem_map.1 ho
      exact h.bound_lt hids
  · exact h.bound.imp id fun ⟨o, ho, hb⟩ => ⟨o, List.mem_append_left _ ho, hb⟩

/-- A build keeps the invariant when the parents hold: in full it computes the reference itself,
and incrementally `Maintained.incremental` applies, since what is new is above the boundary. -/
theorem ChainInv.build {s : Chain} (h : ChainInv engine s) {full : Bool}
    (hparents : ParentsHold engine s (.build full)) :
    ChainInv engine (s.after engine (.build full)) := by
  simp only [Chain.after]
  refine ⟨⟨[], by simp, fun o ho => by cases ho⟩, ?_, fun f hf => ?_⟩
  -- the boundary stays, or moves to a batch that was committed before this build
  · rcases bound_build_cases engine s.mart full s.committed with hb | hb
    · dsimp only
      rw [hb]
      exact h.bound
    · obtain ⟨o, ho, -, hid⟩ := watched_of_shown hb
      exact Or.inr ⟨o, ho, hid⟩
  · obtain ⟨new, hc, habove⟩ := h.above
    unfold Mart.build at hf
    dsimp only at hf ⊢
    -- a first build and a full refresh replace the facts, an incremental one maintains them
    cases hfacts : s.mart.facts with
    | none =>
      rw [hfacts] at hf
      obtain rfl := Option.some.inj hf
      exact Maintained.fullRefresh _
    | some g =>
      rw [hfacts] at hf
      cases full with
      | true =>
        obtain rfl := Option.some.inj hf
        exact Maintained.fullRefresh _
      | false =>
        obtain rfl := Option.some.inj hf
        have hkept := hparents (by rw [hfacts]; exact Option.some_ne_none _)
        rw [hc] at hkept ⊢
        exact (h.facts g hfacts).incremental habove hkept

/-- The invariant holds in every state of a chain whose incremental builds find their parents: by
induction on the chain. -/
theorem chainInv_of_run {step : Chain → ChainAct → Chain → Prop} {acts : List ChainAct}
    {s : Chain} (h : Run step Chain.empty acts s)
    (hstep : ∀ s a t, step s a t → s.Step engine a t ∧ ParentsHold engine s a) :
    ChainInv engine s := by
  refine h.invariant (I := ChainInv engine) ?_ fun t a u hI hs => ?_
  · exact ⟨⟨[], rfl, fun o ho => by cases ho⟩, Or.inl rfl, fun f hf => by cases hf⟩
  · obtain ⟨⟨hids, rfl⟩, hparents⟩ := hstep t a u hs
    cases a with
    | commit batch objects => exact hI.commit hids
    | build full => exact hI.build hparents

/-- After a build that sees every order, the facts are up to date. -/
theorem upToDate_of_inv {s : Chain} {full : Bool} (h : ChainInv engine s)
    (hparents : ParentsHold engine s (.build full))
    (hpresent : full = false → OrdersPresent s.committed) :
    UpToDate engine (s.after engine (.build full)) := by
  have hinv := h.build hparents
  cases hf : (s.mart.build engine full s.committed).facts with
  | none =>
    unfold Mart.build at hf
    dsimp only at hf
    split at hf <;> cases hf
  | some f =>
    refine ⟨f, hf, ?_⟩
    cases full with
    | false => exact (hinv.facts f hf).sameFacts (hpresent rfl)
    | true =>
      have hfull : f = fullRefresh engine s.committed := by
        unfold Mart.build at hf
        dsimp only at hf
        split at hf
        · rename_i hcontra
          cases hcontra
        · exact (Option.some.inj hf).symm
      rw [hfull]
      exact SameFacts.refl _

/-- A closed catalog has every order. -/
theorem ReferentiallyClosed.ordersPresent {c : Catalog} (h : ReferentiallyClosed c) :
    OrdersPresent c := by
  have hpresent : ∀ k, (∃ o ∈ c.rows ObjectRows.ordersOf, o.row.orderId = k) →
      OrderPresent c k := by
    rintro k ⟨o, ho, hk⟩ hnone
    exact latest_eq_none.1 hnone o ho hk
  exact ⟨fun i hi => hpresent _ (h.items i (mem_of_current hi)),
    fun p hp => hpresent _ (h.payments p (mem_of_current hp))⟩

/-- Every batch comes with the parents of its rows: after every build whose
incremental predecessors found their parents unchanged, the facts are up to date. -/
theorem upToDate_of_closed (acts : List ChainAct) (full : Bool) {s : Chain}
    (h : Run (fun s a t => s.Step engine a t ∧ ReferentiallyClosed t.committed ∧
      ParentsHold engine s a) Chain.empty (acts ++ [.build full]) s) :
    UpToDate engine s := by
  obtain ⟨t, ht, ⟨-, rfl⟩, hclosed, hparents⟩ := h.snoc_inv
  exact upToDate_of_inv (chainInv_of_run ht fun _ _ _ hs => ⟨hs.1, hs.2.2⟩) hparents
    fun _ => hclosed.ordersPresent

/-- A parent may come in a later batch than its rows: after every build that sees
the orders of all items and payments, the facts are up to date when every
incremental build found the other parents unchanged. -/
theorem upToDate_of_late (acts : List ChainAct) (full : Bool) {s : Chain}
    (h : Run (fun s a t => s.Step engine a t ∧ ParentsHold engine s a) Chain.empty
      (acts ++ [.build full]) s)
    (hpresent : full = false → OrdersPresent s.committed) :
    UpToDate engine s := by
  obtain ⟨t, ht, ⟨-, rfl⟩, hparents⟩ := h.snoc_inv
  exact upToDate_of_inv (chainInv_of_run ht fun _ _ _ hs => hs) hparents hpresent

end Models

/-- The state after a list of events. -/
def chainOf (acts : List ChainAct) : Chain := acts.foldl (Chain.after textEngine) .empty

/-- Without subscription payments only the orders have parents. -/
theorem parentsKept_of_orders {c d : Catalog} {bound : String}
    (horders : ∀ o ∈ ordersCurrent d, OrderTouched textEngine d bound o ∨
      OrderKept textEngine c d o)
    (hc : stgSubscriptionPayments c = []) (hd : stgSubscriptionPayments d = []) :
    ParentsKept textEngine c d bound :=
  ⟨horders, by rw [hd]; exact List.forall_mem_nil _, by rw [hc]; exact List.forall_mem_nil _⟩

/-- An order is kept when its customer row is the same and a tier was observed by the
purchase. -/
theorem orderKept_of_observed {c d : Catalog} {o : Landed OrdersRow}
    (hplace : customerPlace d o.row.customerId = customerPlace c o.row.customerId)
    (hid : (stgOrder d o).customerId = (stgOrder c o).customerId)
    (htier : ∃ v ∈ stgCustomerTierObservations textEngine d,
      (stgOrder d o).customerId = some v.row.customerUniqueId ∧
      v.row.updatedAt ≤ o.row.orderPurchaseTimestamp) : OrderKept textEngine c d o := by
  obtain ⟨v, hv, hcustomer, ht⟩ := htier
  refine ⟨hplace, Or.inl ⟨hid, fun id hid' => Or.inl ⟨v, hv, ?_, ht⟩⟩⟩
  exact Option.some.inj (hcustomer.symm.trans hid')

private def itemRow (orderId : String) : OrderItemsRow := ⟨orderId, 1, "p-1", "s-1", 9, 100, 10, 5⟩

/-- An order with its item; the item of a second order comes alone. -/
private def lateItem : List ChainAct := [
  .commit firstHour [(1, .customers [sampleCustomer "sp"]),
    (1, .customerMembershipTiers [sampleTier 1]), (1, .products [⟨"p-1", 1⟩]),
    (1, .sellers [⟨"s-1", 1⟩]), (1, .orders [sampleOrder "o-1" "created" 5]),
    (1, .orderItems [itemRow "o-1"])],
  .build false,
  .commit secondHour [(2, .orderItems [itemRow "o-2"])]]

/-- Its order comes one batch, and one build, later. -/
private def lateOrder : List ChainAct :=
  lateItem ++ [.build false, .commit thirdHour [(3, .orders [sampleOrder "o-2" "created" 7])]]

theorem upToDate_of_late_order :
    UpToDate textEngine (chainOf (lateOrder ++ [.build false])) := by
  -- the first order reads the same customer, and a tier observed before it
  have hfirst : ∀ o ∈ ordersCurrent (chainOf lateItem).committed,
      OrderKept textEngine (chainOf lateItem).built (chainOf lateItem).committed o := by
    have hkept : ∀ o ∈ ordersCurrent (chainOf lateItem).committed,
        customerPlace (chainOf lateItem).committed o.row.customerId =
          customerPlace (chainOf lateItem).built o.row.customerId ∧
        (stgOrder (chainOf lateItem).committed o).customerId =
          (stgOrder (chainOf lateItem).built o).customerId ∧
        ∃ v ∈ stgCustomerTierObservations textEngine (chainOf lateItem).committed,
          (stgOrder (chainOf lateItem).committed o).customerId = some v.row.customerUniqueId ∧
          v.row.updatedAt ≤ o.row.orderPurchaseTimestamp := by decide +kernel
    exact fun o ho => orderKept_of_observed (hkept o ho).1 (hkept o ho).2.1 (hkept o ho).2.2
  have hsecond : ∀ o ∈ ordersCurrent (chainOf lateOrder).committed,
      OrderTouched textEngine (chainOf lateOrder).committed (chainOf lateOrder).mart.bound o ∨
      OrderKept textEngine (chainOf lateOrder).built (chainOf lateOrder).committed o := by
    have hkept : ∀ o ∈ ordersCurrent (chainOf lateOrder).committed,
        (chainOf lateOrder).mart.bound < o.batchId ∨
        customerPlace (chainOf lateOrder).committed o.row.customerId =
          customerPlace (chainOf lateOrder).built o.row.customerId ∧
        (stgOrder (chainOf lateOrder).committed o).customerId =
          (stgOrder (chainOf lateOrder).built o).customerId ∧
        ∃ v ∈ stgCustomerTierObservations textEngine (chainOf lateOrder).committed,
          (stgOrder (chainOf lateOrder).committed o).customerId = some v.row.customerUniqueId ∧
          v.row.updatedAt ≤ o.row.orderPurchaseTimestamp := by decide +kernel
    intro o ho
    exact (hkept o ho).imp .inl fun ⟨hplace, hid, htier⟩ => orderKept_of_observed hplace hid htier
  refine upToDate_of_late lateOrder false (Run.of_enabled ?_) fun _ => ?_
  · exact ⟨⟨⟨by decide, rfl⟩, trivial⟩, ⟨⟨by decide +kernel, rfl⟩, fun h => absurd rfl h⟩,
      ⟨⟨by decide, rfl⟩, trivial⟩,
      ⟨⟨by decide +kernel, rfl⟩, fun _ => parentsKept_of_orders (fun o ho => .inr (hfirst o ho)) rfl rfl⟩,
      ⟨⟨by decide, rfl⟩, trivial⟩,
      ⟨⟨by decide +kernel, rfl⟩, fun _ => parentsKept_of_orders hsecond rfl rfl⟩, trivial⟩
  · exact ReferentiallyClosed.ordersPresent (by decide)

def sampleSubscription : CustomerSubscriptionsRow :=
  ⟨"s-1", "u-1", "ACTIVE", true, 0, some 0, some 100, none, none, none, 0, 1⟩

def samplePayment : SubscriptionPaymentsRow :=
  ⟨"p-1", "s-1", 1, 1, "completed", 5, 1000, "BRL", 0, 100, none, none, none, none, 5⟩

/-- A subscription with a payment; the tier of its customer comes one batch later, and was
changed after the payment. -/
private def lateTier : List ChainAct := [
  .commit firstHour [(1, .customerSubscriptions [sampleSubscription]),
    (1, .subscriptionPayments [samplePayment])],
  .build false,
  .commit secondHour [(2, .customerMembershipTiers [sampleTier 9])]]

/-- A chain whose build leaves out all subscription payments is not up to date. -/
private theorem not_upToDate_of_payments {s : Chain}
    (hstale : s.mart.facts.map Facts.subscriptionPayment = some [])
    (hfresh : fctSubscriptionPayment textEngine s.committed ≠ []) : ¬ UpToDate textEngine s := by
  rintro ⟨f, hf, hsame⟩
  rw [hf] at hstale
  obtain ⟨r, hr⟩ := List.exists_mem_of_ne_nil _ hfresh
  have hmem := (hsame.subscriptionPayment r).2 hr
  have hnone : f.subscriptionPayment = [] := Option.some.inj hstale
  rw [hnone] at hmem
  cases hmem

theorem upToDate_of_late_false :
    ¬ ∀ (engine : Engine) (acts : List ChainAct) (full : Bool) (s : Chain),
      Run (fun s a t => s.Step engine a t) Chain.empty (acts ++ [.build full]) s →
        ReferentiallyClosed s.committed → UpToDate engine s := by
  intro h
  refine not_upToDate_of_payments ?_ ?_
    (h textEngine lateTier false (chainOf (lateTier ++ [.build false]))
      (Run.of_enabled ?_) (by decide))
  · decide +kernel
  · decide +kernel
  · exact ⟨⟨by decide, rfl⟩, ⟨by decide +kernel, rfl⟩, ⟨by decide, rfl⟩,
      ⟨by decide +kernel, rfl⟩, trivial⟩

end CommercePlatform.Warehouse
