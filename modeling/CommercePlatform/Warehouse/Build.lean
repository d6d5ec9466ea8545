import CommercePlatform.Warehouse.Facts
/-!
# The incremental build

The processed-batch boundary (`macros/processed_batch_watermark.sql`), the affected keys
of the two fact axes (`int_affected_order_keys`,
`int_affected_subscription_payment_keys`) and one build of the four facts.

A build computes a fact in full when its table does not exist or the run is a full
refresh; otherwise it replaces the rows of the affected keys. A key is affected when
something with a batch id above the boundary touches it. For an order that is one of six
arms: its own row, an item, a payment, an observation of its customer's tier at or
before the purchase, the product of an item, the seller of an item. For a subscription
payment it is one of three. There is no arm for a row of `customers`, and the arms of
the observations ask for the earliest changed time only.

A build of all four facts that succeeds then records the largest batch id the staging
models showed. `batch_id_source_models` are the models it looks at;
`stg_customers_current` is not one of them.

The functions follow the names of the SQL, CTE by CTE, so that a changed arm is changed
in one definition and one lemma (`orderAffected_of_arm`). What makes a build succeed is
in `Warehouse.DataTests`; builds of a part of the models do not advance the boundary and
are not modelled.
-/

namespace CommercePlatform.Warehouse

open Lib

/-- `processed_batch_lower_bound`: `coalesce(max(processed_batch_id), '')`. -/
def processedBatchLowerBound (processed : List String) : String := processed.foldr max ""

section Models

variable (engine : Engine)

/-- The `_batch_id`s the models of `batch_id_source_models` show. -/
def shownBatchIds (c : Catalog) : List String :=
  (stgOrders c).map StgOrder.batchId
    ++ (stgOrderItems c).map Landed.batchId
    ++ (stgPayments c).map Landed.batchId
    ++ (stgProducts c).map Landed.batchId
    ++ (stgSellers c).map Landed.batchId
    ++ (stgCustomerTierObservations engine c).map Landed.batchId
    ++ (stgCustomerSubscriptionObservations engine c).map Landed.batchId
    ++ (stgSubscriptionPayments c).map StgSubscriptionPayment.batchId

/-- `advance_processed_batch_watermark`: record the largest batch id shown, if any. The table
keeps every id it was given. -/
def advanceProcessedBatch (c : Catalog) (processed : List String) : List String :=
  match (shownBatchIds engine c).max? with
  | none => processed
  | some b => processed ++ [b]

/-- `select min(updated_at) … where _batch_id > <bound> group by <key>`, for one key: from when
on its history may have changed. -/
def changedFrom {ρ : Type} (key : ρ → String) (time : ρ → Timestamp) (bound : String)
    (obs : List (Landed ρ)) (k : String) : Option Timestamp :=
  ((obs.filter fun r => key r.row = k ∧ bound < r.batchId).map fun r => time r.row).min?

/-- `tier_axis_changes`. -/
def tierChangedFrom (c : Catalog) (bound customerId : String) : Option Timestamp :=
  changedFrom CustomerMembershipTiersRow.customerUniqueId CustomerMembershipTiersRow.updatedAt
    bound (stgCustomerTierObservations engine c) customerId

/-- `subscription_axis_changes`. -/
def subscriptionChangedFrom (c : Catalog) (bound subscriptionId : String) : Option Timestamp :=
  changedFrom CustomerSubscriptionsRow.subscriptionId CustomerSubscriptionsRow.updatedAt bound
    (stgCustomerSubscriptionObservations engine c) subscriptionId

/-- `affected_orders`. -/
def affectedOrders (c : Catalog) (bound : String) : List StgOrder :=
  (stgOrders c).filter fun o => bound < o.batchId

/-- `affected_from_items`: the join with the orders drops an item whose order is not there. -/
def affectedFromItems (c : Catalog) (bound : String) : List StgOrder :=
  ((stgOrderItems c).filter fun i => bound < i.batchId).filterMap fun i =>
    stgOrderOf c i.row.orderId

/-- `affected_from_payments`. -/
def affectedFromPayments (c : Catalog) (bound : String) : List StgOrder :=
  ((stgPayments c).filter fun p => bound < p.batchId).filterMap fun p =>
    stgOrderOf c p.row.orderId

/-- `affected_from_customers`: the join with `tier_axis_changes`. -/
def affectedFromCustomers (c : Catalog) (bound : String) : List StgOrder :=
  (stgOrders c).filter fun o =>
    ∃ id ∈ o.customerId, ∃ changed ∈ tierChangedFrom engine c bound id,
      changed ≤ o.order.orderPurchaseTimestamp

/-- `affected_from_products`. -/
def affectedFromProducts (c : Catalog) (bound : String) : List StgOrder :=
  ((stgProducts c).filter fun p => bound < p.batchId).flatMap fun p =>
    ((stgOrderItems c).filter fun i => i.row.productId = p.row.productId).filterMap fun i =>
      stgOrderOf c i.row.orderId

/-- `affected_from_sellers`. -/
def affectedFromSellers (c : Catalog) (bound : String) : List StgOrder :=
  ((stgSellers c).filter fun s => bound < s.batchId).flatMap fun s =>
    ((stgOrderItems c).filter fun i => i.row.sellerId = s.row.sellerId).filterMap fun i =>
      stgOrderOf c i.row.orderId

/-- `int_affected_order_keys`: order id and business date of every affected order. -/
def intAffectedOrderKeys (c : Catalog) (bound : String) : List (String × Int) :=
  (affectedOrders c bound ++ affectedFromItems c bound ++ affectedFromPayments c bound
    ++ affectedFromCustomers engine c bound ++ affectedFromProducts c bound
    ++ affectedFromSellers c bound).map fun o =>
      (o.order.orderId, dateKey o.order.orderPurchaseTimestamp)

/-- `affected_payments`. -/
def affectedPayments (c : Catalog) (bound : String) : List StgSubscriptionPayment :=
  (stgSubscriptionPayments c).filter fun p => bound < p.batchId

/-- `affected_from_subscription_versions`. -/
def affectedFromSubscriptionVersions (c : Catalog) (bound : String) :
    List StgSubscriptionPayment :=
  (stgSubscriptionPayments c).filter fun p =>
    ∃ changed ∈ subscriptionChangedFrom engine c bound p.payment.subscriptionId,
      changed ≤ p.payment.paymentAt

/-- `affected_from_customer_versions`. -/
def affectedFromCustomerVersions (c : Catalog) (bound : String) : List StgSubscriptionPayment :=
  (stgSubscriptionPayments c).filter fun p =>
    ∃ changed ∈ tierChangedFrom engine c bound p.customerId, changed ≤ p.payment.paymentAt

/-- `int_affected_subscription_payment_keys`. -/
def intAffectedSubscriptionPaymentKeys (c : Catalog) (bound : String) : List (String × Int) :=
  (affectedPayments c bound ++ affectedFromSubscriptionVersions engine c bound
    ++ affectedFromCustomerVersions engine c bound).map fun p =>
      (p.payment.paymentId, dateKey p.payment.paymentAt)

/-- `order_id in (select order_id from int_affected_order_keys)`. -/
def orderAffected (c : Catalog) (bound orderId : String) : Bool :=
  (intAffectedOrderKeys engine c bound).any fun k => k.1 = orderId

/-- `payment_id in (select payment_id from int_affected_subscription_payment_keys)`. -/
def paymentAffected (c : Catalog) (bound paymentId : String) : Bool :=
  (intAffectedSubscriptionPaymentKeys engine c bound).any fun k => k.1 = paymentId

/-! ## A build -/

/-- The four incremental models over the tables `f` and the boundary `bound`. -/
def incremental (c : Catalog) (bound : String) (f : Facts) : Facts where
  order := maintain FctOrder.orderId (orderAffected engine c bound) f.order (fctOrder engine c)
  orderItem :=
    maintain FctOrderItem.orderId (orderAffected engine c bound) f.orderItem (fctOrderItem c)
  orderPayment :=
    maintain FctOrderPayment.orderId (orderAffected engine c bound) f.orderPayment
      (fctOrderPayment engine c)
  subscriptionPayment :=
    maintain FctSubscriptionPayment.paymentId (paymentAffected engine c bound)
      f.subscriptionPayment (fctSubscriptionPayment engine c)

/-- The part of the warehouse file a build reads and writes. -/
structure Mart where
  /-- The fact tables, absent before the first build. -/
  facts : Option Facts
  /-- `control.dbt_processed_batch`. -/
  processed : List String

/-- The warehouse file before any build. -/
def Mart.empty : Mart := ⟨none, []⟩

/-- The boundary the next build uses. -/
def Mart.bound (w : Mart) : String := processedBatchLowerBound w.processed

/-- A successful build of all four facts from the catalog: in full without tables or on request,
else the affected keys over the tables that are there. -/
def Mart.build (full : Bool) (c : Catalog) (w : Mart) : Mart where
  facts := match w.facts, full with
    | some f, false => some (incremental engine c w.bound f)
    | _, _ => some (fullRefresh engine c)
  processed := advanceProcessedBatch engine c w.processed

end Models

end CommercePlatform.Warehouse
