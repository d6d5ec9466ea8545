import CommercePlatform.Control.Batch
import CommercePlatform.Warehouse.Unchanged
/-!
# The incremental build against a full refresh

One build: the facts hold what a full refresh of the catalog `c` computes, new batches
extend it to `d`, and the build recomputes the affected keys. The result is what a full
refresh of `d` computes when every fact row that is *not* recomputed still reads the
same parents, and no row loses its parents (`fctOrder_maintained` and the three like
it).

The affected keys cover every recommitted row of the driving tables and every
observation at or before an event. They do not cover a customer row, the first
observation of a history (in force before its own time) and the customer of a
subscription. `ParentsKept` asks exactly that these did not change for the events
nothing else touches. It is a condition on the two catalogs, not on the facts.

An item or payment whose order is not committed yet is in no affected key, since the
arms join with the orders. It is recomputed in the build that sees the order, so the two
facts below the order agree for the orders that are present (`AgreesOn`), whatever the
tables hold for the others.

The proof is the same for all four facts. `Lib.DeltaBuild` reduces it to one driving
row: that an unaffected row was there before and yields the fact rows it yielded. For
the order that goes through `OrderQuiet`, which collects what "not affected" says about
the new rows, arm by arm; then its items and payments are the old ones, its customer
keys are the old ones by `Warehouse.Unchanged`, and the place of its customer is what
`OrderKept` grants.
-/

namespace CommercePlatform.Warehouse

open Lib

section Models

variable (engine : Engine)

/-- The attributes `int_orders_enriched` takes from the customer row of an order. -/
def customerPlace (c : Catalog) (sourceCustomerId : String) : Option String × Option String :=
  ((customerOf c sourceCustomerId).bind CustomersRow.customerCity,
    (customerOf c sourceCustomerId).bind CustomersRow.customerState)

/-- Something that makes the build recompute an order is new: its row, an item or
payment of it, the product or seller of an item, or a tier observation of its
customer at or before the purchase. -/
def OrderTouched (d : Catalog) (bound : String) (o : Landed OrdersRow) : Prop :=
  bound < o.batchId ∨
  (∃ i ∈ itemsOf d o.row.orderId, bound < i.batchId) ∨
  (∃ p ∈ paymentsOf d o.row.orderId, bound < p.batchId) ∨
  (∃ i ∈ itemsOf d o.row.orderId, ∃ p ∈ stgProducts d,
    p.row.productId = i.row.productId ∧ bound < p.batchId) ∨
  (∃ i ∈ itemsOf d o.row.orderId, ∃ s ∈ stgSellers d,
    s.row.sellerId = i.row.sellerId ∧ bound < s.batchId) ∨
  (∃ v ∈ stgCustomerTierObservations engine d, bound < v.batchId ∧
    (stgOrder d o).customerId = some v.row.customerUniqueId ∧
    v.row.updatedAt ≤ o.row.orderPurchaseTimestamp)

/-- A tier was observed by `t`, or the customer's first version is the same. -/
def TierKept (c d : Catalog) (customerId : String) (t : Timestamp) : Prop :=
  (∃ v ∈ stgCustomerTierObservations engine d,
    v.row.customerUniqueId = customerId ∧ v.row.updatedAt ≤ t) ∨
  firstVersion (customerAxis engine) (customerObservations engine d customerId) =
    firstVersion (customerAxis engine) (customerObservations engine c customerId)

/-- The subscription was observed by `t`, or its first version is the same. -/
def SubscriptionKept (c d : Catalog) (subscriptionId : String) (t : Timestamp) : Prop :=
  (∃ v ∈ stgCustomerSubscriptionObservations engine d,
    v.row.subscriptionId = subscriptionId ∧ v.row.updatedAt ≤ t) ∨
  firstVersion (subscriptionAxis engine) (subscriptionObservations engine d subscriptionId) =
    firstVersion (subscriptionAxis engine) (subscriptionObservations engine c subscriptionId)

/-- No tier of this customer was observed. -/
def Untiered (c : Catalog) (customerId : Option String) : Prop :=
  ∀ v ∈ stgCustomerTierObservations engine c, customerId ≠ some v.row.customerUniqueId

/-- The parents of an order read as before: the place of its customer, and the customer version
in force at the purchase, if there is one. -/
structure OrderKept (c d : Catalog) (o : Landed OrdersRow) : Prop where
  place : customerPlace d o.row.customerId = customerPlace c o.row.customerId
  version : ((stgOrder d o).customerId = (stgOrder c o).customerId ∧
      ∀ id, (stgOrder d o).customerId = some id →
        TierKept engine c d id o.row.orderPurchaseTimestamp) ∨
    (Untiered engine c (stgOrder c o).customerId ∧ Untiered engine d (stgOrder d o).customerId)

/-- Something that makes the build recompute a subscription payment is new: its
row, or an observation of its subscription or customer at or before the payment. -/
def PaymentTouched (d : Catalog) (bound : String) (p : StgSubscriptionPayment) : Prop :=
  bound < p.batchId ∨
  (∃ v ∈ stgCustomerSubscriptionObservations engine d, bound < v.batchId ∧
    v.row.subscriptionId = p.payment.subscriptionId ∧ v.row.updatedAt ≤ p.payment.paymentAt) ∨
  (∃ v ∈ stgCustomerTierObservations engine d, bound < v.batchId ∧
    v.row.customerUniqueId = p.customerId ∧ v.row.updatedAt ≤ p.payment.paymentAt)

/-- The parents of a subscription payment read as before: the customer of its subscription and
both versions in force. -/
structure PaymentKept (c d : Catalog) (p : StgSubscriptionPayment) : Prop where
  customer : (subscriptionOf c p.payment.subscriptionId).map
    CustomerSubscriptionsRow.customerUniqueId = some p.customerId
  subscription : SubscriptionKept engine c d p.payment.subscriptionId p.payment.paymentAt
  tier : TierKept engine c d p.customerId p.payment.paymentAt

/-- The customer of a subscription payment has a tier, so the payment has a fact row. -/
def Tiered (c : Catalog) (p : StgSubscriptionPayment) : Prop :=
  ∃ v ∈ stgCustomerTierObservations engine c, v.row.customerUniqueId = p.customerId

/-- Every event the build does not recompute still reads the same parents, and a
subscription payment that found its parents still finds them. -/
structure ParentsKept (c d : Catalog) (bound : String) : Prop where
  orders : ∀ o ∈ ordersCurrent d, OrderTouched engine d bound o ∨ OrderKept engine c d o
  payments : ∀ p ∈ stgSubscriptionPayments d, Tiered engine d p →
    PaymentTouched engine d bound p ∨ PaymentKept engine c d p
  joined : ∀ p ∈ stgSubscriptionPayments c, Tiered engine c p →
    ∃ p' ∈ stgSubscriptionPayments d, p'.payment.paymentId = p.payment.paymentId ∧
      Tiered engine d p'

variable {engine}

theorem stgOrderOf_of_mem {d : Catalog} {o : Landed OrdersRow} (ho : o ∈ ordersCurrent d) :
    stgOrderOf d o.row.orderId = some (stgOrder d o) := by
  unfold stgOrderOf
  rw [mem_currentBronzeRecords.1 ho]
  rfl

theorem stgOrder_mem {d : Catalog} {o : Landed OrdersRow} (ho : o ∈ ordersCurrent d) :
    stgOrder d o ∈ stgOrders d := List.mem_map_of_mem ho

theorem mem_itemsOf {d : Catalog} {k : String} {i : Landed OrderItemsRow} :
    i ∈ itemsOf d k ↔ i ∈ stgOrderItems d ∧ i.row.orderId = k := by
  unfold itemsOf
  rw [List.mem_filter, decide_eq_true_eq]

theorem mem_paymentsOf {d : Catalog} {k : String} {p : Landed OrderPaymentsRow} :
    p ∈ paymentsOf d k ↔ p ∈ stgPayments d ∧ p.row.orderId = k := by
  unfold paymentsOf
  rw [List.mem_filter, decide_eq_true_eq]

/-- An order in one of the six arms is affected: the lemma through which the arms are used. -/
theorem orderAffected_of_arm {d : Catalog} {bound : String} (so : StgOrder)
    (h : so ∈ affectedOrders d bound ++ affectedFromItems d bound ++ affectedFromPayments d bound
      ++ affectedFromCustomers engine d bound ++ affectedFromProducts d bound
      ++ affectedFromSellers d bound) :
    orderAffected engine d bound so.order.orderId = true := by
  unfold orderAffected intAffectedOrderKeys
  rw [List.any_eq_true]
  exact ⟨_, List.mem_map_of_mem h, by simp⟩

theorem orderAffected_of_touched {d : Catalog} {bound : String} {o : Landed OrdersRow}
    (ho : o ∈ ordersCurrent d) (h : OrderTouched engine d bound o) :
    orderAffected engine d bound o.row.orderId = true := by
  refine orderAffected_of_arm (stgOrder d o) ?_
  have hof := stgOrderOf_of_mem ho
  simp only [List.mem_append, or_assoc]
  rcases h with hrow | ⟨i, hi, hb⟩ | ⟨p, hp, hb⟩ | ⟨i, hi, p, hp, hid, hb⟩ |
    ⟨i, hi, s, hs, hid, hb⟩ | ⟨v, hv, hb, hid, ht⟩
  · exact Or.inl (List.mem_filter.2 ⟨stgOrder_mem ho, decide_eq_true hrow⟩)
  · obtain ⟨hi, hk⟩ := mem_itemsOf.1 hi
    refine Or.inr (Or.inl (List.mem_filterMap.2 ⟨i, ?_, by rw [hk, hof]⟩))
    exact List.mem_filter.2 ⟨hi, by simpa using hb⟩
  · obtain ⟨hp, hk⟩ := mem_paymentsOf.1 hp
    refine Or.inr (Or.inr (Or.inl (List.mem_filterMap.2 ⟨p, ?_, by rw [hk, hof]⟩)))
    exact List.mem_filter.2 ⟨hp, by simpa using hb⟩
  · obtain ⟨hi, hk⟩ := mem_itemsOf.1 hi
    refine Or.inr (Or.inr (Or.inr (Or.inr (Or.inl (List.mem_flatMap.2 ⟨p, ?_, ?_⟩)))))
    · exact List.mem_filter.2 ⟨hp, by simpa using hb⟩
    · exact List.mem_filterMap.2 ⟨i, List.mem_filter.2 ⟨hi, by simp [hid]⟩, by rw [hk, hof]⟩
  · obtain ⟨hi, hk⟩ := mem_itemsOf.1 hi
    refine Or.inr (Or.inr (Or.inr (Or.inr (Or.inr (List.mem_flatMap.2 ⟨s, ?_, ?_⟩)))))
    · exact List.mem_filter.2 ⟨hs, by simpa using hb⟩
    · exact List.mem_filterMap.2 ⟨i, List.mem_filter.2 ⟨hi, by simp [hid]⟩, by rw [hk, hof]⟩
  · refine Or.inr (Or.inr (Or.inr (Or.inl (List.mem_filter.2 ⟨stgOrder_mem ho, ?_⟩))))
    exact decide_eq_true ⟨_, hid, changedFrom_le hv rfl hb ht⟩

/-- A payment in one of the three arms is affected. -/
theorem paymentAffected_of_touched {d : Catalog} {bound : String} {p : StgSubscriptionPayment}
    (hp : p ∈ stgSubscriptionPayments d) (h : PaymentTouched engine d bound p) :
    paymentAffected engine d bound p.payment.paymentId = true := by
  unfold paymentAffected intAffectedSubscriptionPaymentKeys
  rw [List.any_eq_true]
  refine ⟨_, List.mem_map_of_mem (a := p) ?_, by simp⟩
  simp only [List.mem_append, or_assoc]
  rcases h with hrow | ⟨v, hv, hb, hid, ht⟩ | ⟨v, hv, hb, hid, ht⟩
  · exact Or.inl (List.mem_filter.2 ⟨hp, decide_eq_true hrow⟩)
  · refine Or.inr (Or.inl (List.mem_filter.2 ⟨hp, ?_⟩))
    exact decide_eq_true (changedFrom_le hv hid hb ht)
  · refine Or.inr (Or.inr (List.mem_filter.2 ⟨hp, ?_⟩))
    exact decide_eq_true (changedFrom_le hv hid hb ht)

variable {c new : Catalog} {bound : String}

/-- The customer keys a join finds as of `t` are unchanged. -/
theorem customerKeysAsOf_unchanged {id : String} {t : Timestamp} (hnew : Above bound new)
    (h : ∀ v ∈ stgCustomerTierObservations engine (c ++ new), v.row.customerUniqueId = id →
      v.row.updatedAt ≤ t → ¬ bound < v.batchId)
    (hkept : TierKept engine c (c ++ new) id t) :
    customerKeysAsOf engine (c ++ new) id t = customerKeysAsOf engine c id t := by
  have hinfo := versionAt_unchanged (customerAxis engine) rfl hnew h hkept
  have hmap := congrArg (List.map (versionKey engine id)) hinfo
  rw [List.map_map, List.map_map] at hmap
  exact hmap

/-- The subscription keys a join finds as of `t` are unchanged. -/
theorem subscriptionKeysAsOf_unchanged {id : String} {t : Timestamp} (hnew : Above bound new)
    (h : ∀ v ∈ stgCustomerSubscriptionObservations engine (c ++ new), v.row.subscriptionId = id →
      v.row.updatedAt ≤ t → ¬ bound < v.batchId)
    (hkept : SubscriptionKept engine c (c ++ new) id t) :
    subscriptionKeysAsOf engine (c ++ new) id t = subscriptionKeysAsOf engine c id t := by
  have hinfo := versionAt_unchanged (subscriptionAxis engine) rfl hnew h hkept
  have hmap := congrArg (List.map (versionKey engine id)) hinfo
  rw [List.map_map, List.map_map] at hmap
  exact hmap

/-! ## The order axis -/

theorem leftJoin_ne_nil {α : Type} (l : List α) : leftJoin l ≠ [] := by
  unfold leftJoin
  cases l <;> simp

theorem enrichOrder_ne_nil (engine : Engine) (d : Catalog) (so : StgOrder) : enrichOrder engine d so ≠ [] := by
  unfold enrichOrder
  simpa using leftJoin_ne_nil _

/-- The enriched rows of an order are about that order. -/
theorem order_of_enrichOrder {d : Catalog} {so : StgOrder} {e : OrderEnriched}
    (h : e ∈ enrichOrder engine d so) : e.order = so.order := by
  obtain ⟨key, -, rfl⟩ := List.mem_map.1 h
  rfl

theorem mem_stgOrders {d : Catalog} {so : StgOrder} :
    so ∈ stgOrders d ↔ stgOrderOf d so.order.orderId = some so := by
  unfold stgOrders
  rw [List.mem_map]
  constructor
  · rintro ⟨o, ho, rfl⟩
    exact stgOrderOf_of_mem ho
  · intro h
    obtain ⟨o, ho, hso⟩ := Option.map_eq_some_iff.1 h
    refine ⟨o, mem_currentBronzeRecords.2 ?_, hso⟩
    have hk : o.row.orderId = so.order.orderId := by
      rw [← hso]
      rfl
    rw [hk]
    exact ho

theorem orderId_of_stgOrderOf {d : Catalog} {k : String} {so : StgOrder}
    (h : stgOrderOf d k = some so) : so.order.orderId = k := by
  obtain ⟨o, ho, rfl⟩ := Option.map_eq_some_iff.1 h
  exact key_of_currentBronzeRecord ho

theorem orderId_of_enrichedOf {d : Catalog} {k : String} {e : OrderEnriched}
    (h : e ∈ enrichedOf engine d k) : e.order.orderId = k := by
  obtain ⟨so, hso, he⟩ := List.mem_flatMap.1 h
  rw [order_of_enrichOrder he]
  exact orderId_of_stgOrderOf (Option.mem_toList.1 hso)

/-- The rows of `fct_order` for one order come from its enriched rows. -/
theorem mem_fctOrder {d : Catalog} {r : FctOrder} :
    r ∈ fctOrder engine d ↔ ∃ e ∈ enrichedOf engine d r.orderId, fctOrderRow d e = r := by
  unfold fctOrder fctOrderRows enrichedOf
  simp only [List.mem_flatMap, List.mem_map, Option.mem_toList]
  constructor
  · rintro ⟨so, hso, e, he, rfl⟩
    refine ⟨e, ⟨so, ?_, he⟩, rfl⟩
    have hstg := mem_stgOrders.1 hso
    rw [← order_of_enrichOrder he] at hstg
    exact hstg
  · rintro ⟨e, ⟨so, hso, he⟩, rfl⟩
    refine ⟨so, mem_stgOrders.2 ?_, e, he, rfl⟩
    rw [orderId_of_stgOrderOf hso, hso]

/-- What an order that is not affected tells about the new rows. -/
structure OrderQuiet (engine : Engine) (d : Catalog) (bound : String) (o : Landed OrdersRow) :
    Prop where
  row : ¬ bound < o.batchId
  items : ∀ i ∈ itemsOf d o.row.orderId, ¬ bound < i.batchId
  payments : ∀ p ∈ paymentsOf d o.row.orderId, ¬ bound < p.batchId
  tiers : ∀ v ∈ stgCustomerTierObservations engine d,
    (stgOrder d o).customerId = some v.row.customerUniqueId →
    v.row.updatedAt ≤ o.row.orderPurchaseTimestamp → ¬ bound < v.batchId

/-- What an order that is not affected tells about the new rows: none of the arms has it. -/
theorem orderQuiet_of_not_affected {d : Catalog} {o : Landed OrdersRow}
    (ho : o ∈ ordersCurrent d) (h : orderAffected engine d bound o.row.orderId = false) :
    OrderQuiet engine d bound o := by
  have hnot : ¬ OrderTouched engine d bound o := fun ht => by
    rw [orderAffected_of_touched ho ht] at h
    cases h
  unfold OrderTouched at hnot
  simp only [not_or, not_exists, not_and] at hnot
  obtain ⟨hrow, hitems, hpayments, -, -, htiers⟩ := hnot
  exact ⟨hrow, hitems, hpayments, fun v hv hid ht hb => htiers v hv hb hid ht⟩

theorem itemsOf_unchanged {k : String} (hnew : Above bound new)
    (h : ∀ i ∈ itemsOf (c ++ new) k, ¬ bound < i.batchId) :
    itemsOf (c ++ new) k = itemsOf c k :=
  records_unchanged (fun r : OrderItemsRow => (r.orderId, r.orderItemId))
    (fun x => decide (x.1 = k)) hnew fun r hr hk =>
      h r (mem_itemsOf.2 ⟨hr, of_decide_eq_true hk⟩)

theorem paymentsOf_unchanged {k : String} (hnew : Above bound new)
    (h : ∀ p ∈ paymentsOf (c ++ new) k, ¬ bound < p.batchId) :
    paymentsOf (c ++ new) k = paymentsOf c k :=
  records_unchanged (fun r : OrderPaymentsRow => (r.orderId, r.paymentSequential))
    (fun x => decide (x.1 = k)) hnew fun r hr hk =>
      h r (mem_paymentsOf.2 ⟨hr, of_decide_eq_true hk⟩)

/-- The current row of an order. -/
def orderOf (d : Catalog) (k : String) : Option (Landed OrdersRow) :=
  currentBronzeRecord ObjectRows.ordersOf OrdersRow.orderId OrdersRow.updatedAt d k

theorem orderOf_mem {d : Catalog} {k : String} {o : Landed OrdersRow} (h : orderOf d k = some o) :
    o ∈ ordersCurrent d ∧ o.row.orderId = k := by
  have hk : o.row.orderId = k := key_of_currentBronzeRecord h
  exact ⟨mem_currentBronzeRecords.2 (by rw [hk]; exact h), hk⟩

/-- A committed order stays committed. -/
theorem orderOf_persists (new : Catalog) {k : String} (h : orderOf c k ≠ none) :
    orderOf (c ++ new) k ≠ none := record_persists new h

theorem stgOrderOf_eq (d : Catalog) (k : String) :
    stgOrderOf d k = (orderOf d k).map (stgOrder d) := rfl

/-- The join as of any time finds nothing for a customer without tier. -/
theorem orderCustomerKeys_of_untiered {d : Catalog} {customerId : Option String} (t : Timestamp)
    (h : Untiered engine d customerId) : orderCustomerKeys engine d customerId t = [] := by
  cases customerId with
  | none => rfl
  | some id =>
    have hnil : customerObservations engine d id = [] :=
      List.eq_nil_iff_forall_not_mem.2 fun v hv => by
        obtain ⟨hv, hk⟩ := mem_history.1 hv
        exact h v hv (by rw [hk])
    unfold orderCustomerKeys customerKeysAsOf
    dsimp only
    rw [hnil]
    rfl

/-- An order whose parents are kept is enriched as before. Its customer may have no tier in
either catalog. -/
theorem enrichOrder_unchanged {o : Landed OrdersRow} (hnew : Above bound new)
    (hquiet : OrderQuiet engine (c ++ new) bound o) (hkept : OrderKept engine c (c ++ new) o) :
    enrichOrder engine (c ++ new) (stgOrder (c ++ new) o) =
      enrichOrder engine c (stgOrder c o) := by
  have hcity := congrArg Prod.fst hkept.place
  have hstate := congrArg Prod.snd hkept.place
  dsimp only [customerPlace] at hcity hstate
  have horder : ∀ d, (stgOrder d o).order = o.row := fun _ => rfl
  unfold enrichOrder
  dsimp only
  rw [horder, horder, hcity, hstate]
  rcases hkept.version with ⟨hid, htier⟩ | ⟨hc, hd⟩
  · rw [hid] at htier ⊢
    cases hcustomer : (stgOrder c o).customerId with
    | none => rfl
    | some id =>
      dsimp only [orderCustomerKeys]
      rw [customerKeysAsOf_unchanged hnew (fun v hv hv' ht => hquiet.tiers v hv
        (by rw [hid, hcustomer, hv']) ht) (htier id hcustomer)]
  · rw [orderCustomerKeys_of_untiered _ hc, orderCustomerKeys_of_untiered _ hd]

/-- An unaffected order is enriched as before. -/
theorem enrichedOf_unchanged {k : String} (hnew : Above bound new)
    (hkept : ParentsKept engine c (c ++ new) bound)
    (h : orderAffected engine (c ++ new) bound k = false) :
    enrichedOf engine (c ++ new) k = enrichedOf engine c k := by
  unfold enrichedOf
  rw [stgOrderOf_eq, stgOrderOf_eq]
  cases ho : orderOf (c ++ new) k with
  -- an order that is not there now was not there before
  | none =>
    have hc : orderOf c k = none := by
      by_contra hne
      exact orderOf_persists new hne ho
    rw [hc]
    rfl
  | some o =>
    -- the row, its items and its payments lie below the boundary, and its parents are kept
    obtain ⟨hmem, rfl⟩ := orderOf_mem ho
    have hquiet := orderQuiet_of_not_affected hmem h
    have hold : orderOf c o.row.orderId = some o := by
      rw [← ho]
      refine (record_unchanged hnew fun r hr => ?_).symm
      obtain rfl : r = o := Option.some.inj (hr.symm.trans ho)
      exact hquiet.row
    have horder : OrderKept engine c (c ++ new) o := by
      refine (hkept.orders o hmem).resolve_left fun ht => ?_
      rw [orderAffected_of_touched hmem ht] at h
      cases h
    simp [hold, enrichOrder_unchanged hnew hquiet horder]

/-- The order of a key was committed. -/
def OrderPresent (d : Catalog) (k : String) : Prop := orderOf d k ≠ none

/-- A present, unaffected order was present before, with the same items and payments. -/
theorem order_unchanged {k : String} (hnew : Above bound new)
    (hpresent : OrderPresent (c ++ new) k)
    (h : orderAffected engine (c ++ new) bound k = false) :
    orderOf (c ++ new) k = orderOf c k ∧ itemsOf (c ++ new) k = itemsOf c k ∧
      paymentsOf (c ++ new) k = paymentsOf c k := by
  obtain ⟨o, ho⟩ := Option.ne_none_iff_exists'.1 hpresent
  obtain ⟨hmem, rfl⟩ := orderOf_mem ho
  have hquiet := orderQuiet_of_not_affected hmem h
  refine ⟨record_unchanged hnew fun r hr => ?_, itemsOf_unchanged hnew hquiet.items,
    paymentsOf_unchanged hnew hquiet.payments⟩
  obtain rfl : r = o := Option.some.inj (hr.symm.trans ho)
  exact hquiet.row

/-- `fct_order` after one incremental build is that of a full refresh, where the parents are
kept. -/
theorem fctOrder_maintained {target : List FctOrder} (hnew : Above bound new)
    (hkept : ParentsKept engine c (c ++ new) bound)
    (htarget : SameRows target (fctOrder engine c)) :
    SameRows (maintain FctOrder.orderId (orderAffected engine (c ++ new) bound) target
      (fctOrder engine (c ++ new))) (fctOrder engine (c ++ new)) := by
  refine (deleteInsert_sameRows_iff htarget).2 ⟨fun r hr => ?_, fun r hr _ => ?_⟩
  · rw [mem_fctOrder, mem_fctOrder, enrichedOf_unchanged hnew hkept hr]
    refine exists_congr fun e => and_congr_right fun he => ?_
    -- an enriched order is a present one
    have hid := orderId_of_enrichedOf he
    have hpresent : OrderPresent (c ++ new) r.orderId := by
      intro hnone
      rw [← enrichedOf_unchanged hnew hkept hr] at he
      unfold enrichedOf at he
      rw [stgOrderOf_eq, hnone] at he
      cases he
    obtain ⟨-, hitems, hpayments⟩ := order_unchanged hnew hpresent hr
    have hrow : fctOrderRow (c ++ new) e = fctOrderRow c e := by
      simp only [fctOrderRow, hid, hitems, hpayments]
    rw [hrow]
  · obtain ⟨e, he, -⟩ := mem_fctOrder.1 hr
    obtain ⟨so, hso, -⟩ := List.mem_flatMap.1 he
    rw [Option.mem_toList, stgOrderOf_eq] at hso
    obtain ⟨o, ho, -⟩ := Option.map_eq_some_iff.1 hso
    have hpersists : orderOf (c ++ new) r.orderId ≠ none :=
      orderOf_persists new (by rw [ho]; exact Option.some_ne_none _)
    obtain ⟨o', ho'⟩ := Option.ne_none_iff_exists'.1 hpersists
    obtain ⟨e', he'⟩ := List.exists_mem_of_ne_nil _
      (enrichOrder_ne_nil engine (c ++ new) (stgOrder (c ++ new) o'))
    have hmem : e' ∈ enrichedOf engine (c ++ new) r.orderId := by
      unfold enrichedOf
      rw [stgOrderOf_eq, ho']
      exact List.mem_flatMap.2 ⟨_, by simp, he'⟩
    have hid := orderId_of_enrichedOf hmem
    exact ⟨fctOrderRow (c ++ new) e', mem_fctOrder.2 ⟨e', by rw [← hid] at hmem; exact hmem, rfl⟩,
      hid⟩

theorem mem_fctOrderItem {d : Catalog} {r : FctOrderItem} :
    r ∈ fctOrderItem d ↔ ∃ i ∈ itemsOf d r.orderId, fctOrderItemRow d i = r := by
  unfold fctOrderItem
  rw [List.mem_map]
  constructor
  · rintro ⟨i, hi, rfl⟩
    exact ⟨i, mem_itemsOf.2 ⟨hi, rfl⟩, rfl⟩
  · rintro ⟨i, hi, rfl⟩
    exact ⟨i, (mem_itemsOf.1 hi).1, rfl⟩

/-- An item of the old catalog leaves its order with an item. -/
theorem itemsOf_persists (new : Catalog) {k : String} {i : Landed OrderItemsRow} (hi : i ∈ itemsOf c k) :
    ∃ i', i' ∈ itemsOf (c ++ new) k := by
  obtain ⟨hi, hk⟩ := mem_itemsOf.1 hi
  have hsome := record_persists new (mem_currentBronzeRecords.1 hi ▸ Option.some_ne_none _)
  obtain ⟨i', hi'⟩ := Option.ne_none_iff_exists'.1 hsome
  have hkey := key_of_currentBronzeRecord hi'
  refine ⟨i', mem_itemsOf.2 ⟨mem_currentBronzeRecords.2 (by rw [hkey]; exact hi'), ?_⟩⟩
  rw [← hk]
  exact congrArg Prod.fst hkey

theorem paymentsOf_persists (new : Catalog) {k : String} {p : Landed OrderPaymentsRow} (hp : p ∈ paymentsOf c k) :
    ∃ p', p' ∈ paymentsOf (c ++ new) k := by
  obtain ⟨hp, hk⟩ := mem_paymentsOf.1 hp
  have hsome := record_persists new (mem_currentBronzeRecords.1 hp ▸ Option.some_ne_none _)
  obtain ⟨p', hp'⟩ := Option.ne_none_iff_exists'.1 hsome
  have hkey := key_of_currentBronzeRecord hp'
  refine ⟨p', mem_paymentsOf.2 ⟨mem_currentBronzeRecords.2 (by rw [hkey]; exact hp'), ?_⟩⟩
  rw [← hk]
  exact congrArg Prod.fst hkey

/-- `fct_order_item` after one incremental build, for the orders that are present. -/
theorem fctOrderItem_maintained {target : List FctOrderItem} (hnew : Above bound new)
    (htarget : AgreesOn FctOrderItem.orderId (OrderPresent c) target (fctOrderItem c)) :
    AgreesOn FctOrderItem.orderId (OrderPresent (c ++ new))
      (maintain FctOrderItem.orderId (orderAffected engine (c ++ new) bound) target
        (fctOrderItem (c ++ new))) (fctOrderItem (c ++ new)) := by
  refine htarget.maintain (fun r hr => ?_) fun r hpresent hr => ?_
  · obtain ⟨i, hi, -⟩ := mem_fctOrderItem.1 hr
    obtain ⟨i', hi'⟩ := itemsOf_persists new hi
    obtain ⟨hmem, hk⟩ := mem_itemsOf.1 hi'
    exact ⟨fctOrderItemRow (c ++ new) i', List.mem_map_of_mem hmem, hk⟩
  · obtain ⟨horder, hitems, -⟩ := order_unchanged hnew hpresent hr
    refine ⟨by unfold OrderPresent at hpresent ⊢; rwa [← horder], ?_⟩
    rw [mem_fctOrderItem, mem_fctOrderItem, hitems]
    refine exists_congr fun i => and_congr_right fun hi => ?_
    have hrow : fctOrderItemRow (c ++ new) i = fctOrderItemRow c i := by
      have hk := (mem_itemsOf.1 hi).2
      simp only [fctOrderItemRow, stgOrderOf_eq, hk, horder, Option.map_map]
      rfl
    rw [hrow]

theorem orderId_of_fctOrderPaymentRows {d : Catalog} {p : Landed OrderPaymentsRow}
    {r : FctOrderPayment} (h : r ∈ fctOrderPaymentRows engine d p) : r.orderId = p.row.orderId := by
  obtain ⟨e, -, rfl⟩ := List.mem_map.1 h
  rfl

theorem mem_fctOrderPayment {d : Catalog} {r : FctOrderPayment} :
    r ∈ fctOrderPayment engine d ↔
      ∃ p ∈ paymentsOf d r.orderId, r ∈ fctOrderPaymentRows engine d p := by
  unfold fctOrderPayment
  rw [List.mem_flatMap]
  constructor
  · rintro ⟨p, hp, hr⟩
    exact ⟨p, mem_paymentsOf.2 ⟨hp, (orderId_of_fctOrderPaymentRows hr).symm⟩, hr⟩
  · rintro ⟨p, hp, hr⟩
    exact ⟨p, (mem_paymentsOf.1 hp).1, hr⟩

/-- `fct_order_payment` after one incremental build, for the orders that are present. -/
theorem fctOrderPayment_maintained {target : List FctOrderPayment} (hnew : Above bound new)
    (hkept : ParentsKept engine c (c ++ new) bound)
    (htarget : AgreesOn FctOrderPayment.orderId (OrderPresent c) target
      (fctOrderPayment engine c)) :
    AgreesOn FctOrderPayment.orderId (OrderPresent (c ++ new))
      (maintain FctOrderPayment.orderId (orderAffected engine (c ++ new) bound) target
        (fctOrderPayment engine (c ++ new))) (fctOrderPayment engine (c ++ new)) := by
  refine htarget.maintain (fun r hr => ?_) fun r hpresent hr => ?_
  · obtain ⟨p, hp, -⟩ := mem_fctOrderPayment.1 hr
    obtain ⟨p', hp'⟩ := paymentsOf_persists new hp
    obtain ⟨hmem, hk⟩ := mem_paymentsOf.1 hp'
    -- the order is joined from the left, so a payment has a row whatever its parents are
    have hne : fctOrderPaymentRows engine (c ++ new) p' ≠ [] := by
      unfold fctOrderPaymentRows
      simpa using leftJoin_ne_nil _
    obtain ⟨r', hr'⟩ := List.exists_mem_of_ne_nil _ hne
    have hid : r'.orderId = r.orderId := by
      rw [orderId_of_fctOrderPaymentRows hr', hk]
    exact ⟨r', List.mem_flatMap.2 ⟨p', hmem, hr'⟩, hid⟩
  · obtain ⟨horder, -, hpayments⟩ := order_unchanged hnew hpresent hr
    refine ⟨by unfold OrderPresent at hpresent ⊢; rwa [← horder], ?_⟩
    rw [mem_fctOrderPayment, mem_fctOrderPayment, hpayments]
    refine exists_congr fun p => and_congr_right fun hp => ?_
    -- the payments of an unaffected order are the same, and so is the order they are joined with
    have hblock : fctOrderPaymentRows engine (c ++ new) p = fctOrderPaymentRows engine c p := by
      unfold fctOrderPaymentRows
      rw [(mem_paymentsOf.1 hp).2, enrichedOf_unchanged hnew hkept hr]
    rw [hblock]

/-! ## The subscription axis -/

/-- The `stg_subscription_payments` row of a payment. -/
def stgSubscriptionPaymentOf (d : Catalog) (paymentId : String) :
    Option StgSubscriptionPayment :=
  (currentBronzeRecord ObjectRows.subscriptionPaymentsOf SubscriptionPaymentsRow.paymentId
    SubscriptionPaymentsRow.updatedAt d paymentId).bind (stgSubscriptionPayment d)

theorem stgSubscriptionPaymentOf_some {d : Catalog} {k : String} {p : StgSubscriptionPayment}
    (h : stgSubscriptionPaymentOf d k = some p) :
    p ∈ stgSubscriptionPayments d ∧ p.payment.paymentId = k := by
  obtain ⟨q, hq, hp⟩ := Option.bind_eq_some_iff.1 h
  have hk : q.row.paymentId = k :=
    key_of_currentBronzeRecord hq
  refine ⟨List.mem_filterMap.2 ⟨q, mem_currentBronzeRecords.2 (by rw [hk]; exact hq), hp⟩, ?_⟩
  obtain ⟨s, -, rfl⟩ := Option.map_eq_some_iff.1 hp
  exact hk

theorem mem_stgSubscriptionPayments {d : Catalog} {p : StgSubscriptionPayment} :
    p ∈ stgSubscriptionPayments d ↔
      stgSubscriptionPaymentOf d p.payment.paymentId = some p := by
  refine ⟨fun h => ?_, fun h => (stgSubscriptionPaymentOf_some h).1⟩
  obtain ⟨q, hq, hp⟩ := List.mem_filterMap.1 h
  have hk : q.row.paymentId = p.payment.paymentId := by
    obtain ⟨s, -, rfl⟩ := Option.map_eq_some_iff.1 hp
    rfl
  unfold stgSubscriptionPaymentOf
  rw [← hk, mem_currentBronzeRecords.1 hq]
  exact hp

/-- A fact row belongs to the payment it was computed from. -/
theorem paymentId_of_fctSubscriptionPaymentRows {d : Catalog} {p : StgSubscriptionPayment}
    {r : FctSubscriptionPayment} (h : r ∈ fctSubscriptionPaymentRows engine d p) :
    r.paymentId = p.payment.paymentId := by
  obtain ⟨subscriptionKey, -, hr⟩ := List.mem_flatMap.1 h
  obtain ⟨customerKey, -, rfl⟩ := List.mem_map.1 hr
  rfl

theorem mem_fctSubscriptionPayment {d : Catalog} {r : FctSubscriptionPayment} :
    r ∈ fctSubscriptionPayment engine d ↔
      ∃ p, stgSubscriptionPaymentOf d r.paymentId = some p ∧
        r ∈ fctSubscriptionPaymentRows engine d p := by
  unfold fctSubscriptionPayment
  rw [List.mem_flatMap]
  constructor
  · rintro ⟨p, hp, hr⟩
    refine ⟨p, ?_, hr⟩
    rw [paymentId_of_fctSubscriptionPaymentRows hr]
    exact mem_stgSubscriptionPayments.1 hp
  · rintro ⟨p, hp, hr⟩
    exact ⟨p, (stgSubscriptionPaymentOf_some hp).1, hr⟩

/-- Every row behind an observed entity is represented among its observations. -/
theorem exists_observation {ρ : Type} {table : ObjectRows → List ρ} {key : ρ → String}
    {time : ρ → Timestamp} {hash : ρ → String} {d : Catalog} {r : Landed ρ}
    (hr : r ∈ d.rows table) :
    ∃ v ∈ observationsOf table key time hash d,
      key v.row = key r.row ∧ time v.row = time r.row := by
  have hsome : latest (fun r : Landed ρ => (key r.row, time r.row, hash r.row)) ingestRank
      (d.rows table) (key r.row, time r.row, hash r.row) ≠ none := fun hnone =>
    latest_eq_none.1 hnone r hr rfl
  obtain ⟨v, hv⟩ := Option.ne_none_iff_exists'.1 hsome
  have hk := key_of_latest (fun r : Landed ρ => (key r.row, time r.row, hash r.row)) hv
  exact ⟨v, mem_current.2 (by rw [hk]; exact hv), congrArg Prod.fst hk,
    congrArg (fun x : ObservationKey => x.2.1) hk⟩

/-- A fact row joined a tier of its customer. -/
theorem tiered_of_mem {d : Catalog} {p : StgSubscriptionPayment} {r : FctSubscriptionPayment}
    (h : r ∈ fctSubscriptionPaymentRows engine d p) : Tiered engine d p := by
  obtain ⟨subscriptionKey, -, hr⟩ := List.mem_flatMap.1 h
  obtain ⟨customerKey, hkey, -⟩ := List.mem_map.1 hr
  by_contra hnone
  have huntiered : Untiered engine d (some p.customerId) := fun v hv hid =>
    hnone ⟨v, hv, (Option.some.inj hid).symm⟩
  have hnil := orderCustomerKeys_of_untiered p.payment.paymentAt huntiered
  dsimp only [orderCustomerKeys] at hnil
  rw [hnil] at hkey
  cases hkey

/-- A payment that finds its parents has a fact row. -/
theorem exists_fact_of_tiered {d : Catalog} {p : StgSubscriptionPayment}
    (hp : p ∈ stgSubscriptionPayments d) (hv : Tiered engine d p) :
    ∃ r ∈ fctSubscriptionPayment engine d, r.paymentId = p.payment.paymentId := by
  have hcustomer : customerKeysAsOf engine d p.customerId p.payment.paymentAt ≠ [] := by
    unfold customerKeysAsOf
    rw [Ne, List.map_eq_nil_iff]
    exact asOf_ne_nil rfl _ hv
  have hsubscription :
      subscriptionKeysAsOf engine d p.payment.subscriptionId p.payment.paymentAt ≠ [] := by
    unfold subscriptionKeysAsOf
    rw [Ne, List.map_eq_nil_iff]
    refine asOf_ne_nil rfl _ ?_
    obtain ⟨q, -, hq⟩ := List.mem_filterMap.1 hp
    obtain ⟨s, hs, rfl⟩ := Option.map_eq_some_iff.1 hq
    obtain ⟨row, hrow, -⟩ := Option.map_eq_some_iff.1 hs
    have hid : row.row.subscriptionId = q.row.subscriptionId :=
      key_of_currentBronzeRecord hrow
    rw [← hid]
    obtain ⟨v, hv, hk, -⟩ := exists_observation (mem_of_latest hrow)
    exact ⟨v, hv, hk⟩
  obtain ⟨customerKey, hc⟩ := List.exists_mem_of_ne_nil _ hcustomer
  obtain ⟨subscriptionKey, hs⟩ := List.exists_mem_of_ne_nil _ hsubscription
  refine ⟨fctSubscriptionPaymentRow p.payment subscriptionKey customerKey, ?_, rfl⟩
  exact List.mem_flatMap.2 ⟨p, hp,
    List.mem_flatMap.2 ⟨subscriptionKey, hs, List.mem_map_of_mem hc⟩⟩

/-- An unaffected payment that finds its parents was read, and joined, as it is now. -/
theorem subscriptionPayment_unchanged {k : String} {p : StgSubscriptionPayment}
    (hnew : Above bound new) (hkept : ParentsKept engine c (c ++ new) bound)
    (h : paymentAffected engine (c ++ new) bound k = false)
    (hp : stgSubscriptionPaymentOf (c ++ new) k = some p) (htiered : Tiered engine (c ++ new) p) :
    stgSubscriptionPaymentOf c k = some p ∧
      fctSubscriptionPaymentRows engine (c ++ new) p = fctSubscriptionPaymentRows engine c p := by
  obtain ⟨hmem, hk⟩ := stgSubscriptionPaymentOf_some hp
  -- the key is not affected, so no row at or above the boundary touches the payment
  have hnot : ¬ PaymentTouched engine (c ++ new) bound p := fun ht => by
    have ha := paymentAffected_of_touched hmem ht
    rw [hk, h] at ha
    cases ha
  obtain ⟨hcustomer, hsubscription, htier⟩ := (hkept.payments p hmem htiered).resolve_left hnot
  unfold PaymentTouched at hnot
  simp only [not_or, not_exists, not_and] at hnot
  -- its own row, the observations of its subscription and those of its customer's tier
  obtain ⟨hrow, hsubscriptions, htiers⟩ := hnot
  constructor
  · obtain ⟨q, hq, hqp⟩ := Option.bind_eq_some_iff.1 hp
    obtain ⟨s, -, rfl⟩ := Option.map_eq_some_iff.1 hqp
    have hold : currentBronzeRecord ObjectRows.subscriptionPaymentsOf
        SubscriptionPaymentsRow.paymentId SubscriptionPaymentsRow.updatedAt c k = some q := by
      rw [← hq]
      refine (record_unchanged hnew fun r hr => ?_).symm
      obtain rfl : r = q := Option.some.inj (hr.symm.trans hq)
      exact hrow
    obtain ⟨s', hs', hid⟩ := Option.map_eq_some_iff.1 hcustomer
    dsimp only at hs' hid
    unfold stgSubscriptionPaymentOf
    rw [hold, Option.bind_some]
    unfold stgSubscriptionPayment
    rw [hs', Option.map_some, hid]
  · unfold fctSubscriptionPaymentRows
    rw [subscriptionKeysAsOf_unchanged hnew
        (fun v hv hid ht hb => hsubscriptions v hv hb hid ht) hsubscription,
      customerKeysAsOf_unchanged hnew (fun v hv hid ht hb => htiers v hv hb hid ht) htier]

/-- `fct_subscription_payment` after one incremental build. A payment of the staging model may
lose its place only with its subscription, which is never removed. -/
theorem fctSubscriptionPayment_maintained {target : List FctSubscriptionPayment}
    (hnew : Above bound new) (hkept : ParentsKept engine c (c ++ new) bound)
    (htarget : SameRows target (fctSubscriptionPayment engine c)) :
    SameRows (maintain FctSubscriptionPayment.paymentId (paymentAffected engine (c ++ new) bound)
      target (fctSubscriptionPayment engine (c ++ new)))
      (fctSubscriptionPayment engine (c ++ new)) := by
  -- a payment with a fact row before still finds its parents
  have hjoined : ∀ r ∈ fctSubscriptionPayment engine c, ∃ p ∈ stgSubscriptionPayments (c ++ new),
      p.payment.paymentId = r.paymentId ∧ Tiered engine (c ++ new) p := by
    intro r hr
    obtain ⟨p, hp, hrow⟩ := mem_fctSubscriptionPayment.1 hr
    obtain ⟨hmem, hk⟩ := stgSubscriptionPaymentOf_some hp
    rw [← hk]
    exact hkept.joined p hmem (tiered_of_mem hrow)
  refine (deleteInsert_sameRows_iff htarget).2 ⟨fun r hr => ?_, fun r hr _ => ?_⟩
  · constructor
    · intro hold
      obtain ⟨p, hp, hid, htiered⟩ := hjoined r hold
      have hstg := mem_stgSubscriptionPayments.1 hp
      rw [hid] at hstg
      obtain ⟨hsame, hrows⟩ := subscriptionPayment_unchanged hnew hkept hr hstg htiered
      obtain ⟨p', hp', hr'⟩ := mem_fctSubscriptionPayment.1 hold
      obtain rfl : p = p' := Option.some.inj (hsame.symm.trans hp')
      exact mem_fctSubscriptionPayment.2 ⟨p, hstg, by rw [hrows]; exact hr'⟩
    · intro h
      obtain ⟨p, hp, hr'⟩ := mem_fctSubscriptionPayment.1 h
      obtain ⟨hsame, hrows⟩ :=
        subscriptionPayment_unchanged hnew hkept hr hp (tiered_of_mem hr')
      exact mem_fctSubscriptionPayment.2 ⟨p, hsame, by rw [← hrows]; exact hr'⟩
  · obtain ⟨p, hp, hid, htiered⟩ := hjoined r hr
    obtain ⟨r', hr', hid'⟩ := exists_fact_of_tiered hp htiered
    exact ⟨r', hr', hid'.trans hid⟩

end Models

end CommercePlatform.Warehouse
