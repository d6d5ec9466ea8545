import CommercePlatform.Common.Calendar
import CommercePlatform.Lib.Latest
/-!
# Bronze rows and the staging models

The warehouse reads committed Bronze objects. Every row of an object carries the
object's `_batch_id` and `_ingested_at`; the catalog is the list of committed objects,
and `Catalog.rows` is the macro `bronze_source`: all rows of one source table, of every
object that was ever committed for it. A row that was extracted again is there twice,
and a row that changed is there in every version.

The staging models (`dbt/models/staging`) make one relation of it. They keep the current
row per primary key (`current_bronze_records`) or, for the two observed entities, one
row per key, time and attribute hash (`dedupe_observations`). Both are a latest row per
group, and `Lib.Latest` has their lemmas once: which row is taken, and that it does not
change when only rows of other groups, or earlier ones, are added.

Mirroring notes:

- `row_number() over (partition by … order by …) = 1` takes the first row of the order;
  two rows equal in all columns of the order are rows of one object, and the one the
  engine takes is left to it. Here it is the one that stands first;
- columns that neither a model of the facts nor a data test reads are left out, but for
  those a test compares with themselves; a column that may be `NULL` is an `Option`;
- `md5` and the text of a timestamp are functions of the engine, a parameter. No result
  needs more of them than that they are functions;
- an amount is a number of cents, as `decimal(14, 2)` keeps it.
-/

namespace CommercePlatform.Warehouse

open Lib

/-- The functions of the database engine that the models call. -/
structure Engine where
  md5 : String → String
  timestampText : Timestamp → String

/-- An amount in cents (`decimal(14, 2)`). -/
abbrev Money := Int

structure CustomersRow where
  customerId : String
  customerUniqueId : String
  customerCity : Option String
  customerState : Option String
  createdAt : Timestamp
deriving DecidableEq

structure CustomerSubscriptionsRow where
  subscriptionId : String
  customerUniqueId : String
  subscriptionStatus : String
  autoRenewEnabled : Bool
  subscriptionStartedAt : Timestamp
  currentPeriodStartedAt : Option Timestamp
  currentPeriodEndsAt : Option Timestamp
  paymentFailedAt : Option Timestamp
  cancelRequestedAt : Option Timestamp
  endedAt : Option Timestamp
  createdAt : Timestamp
  updatedAt : Timestamp
deriving DecidableEq

structure CustomerMembershipTiersRow where
  customerUniqueId : String
  membershipTier : String
  createdAt : Timestamp
  updatedAt : Timestamp
deriving DecidableEq

structure SubscriptionPaymentsRow where
  paymentId : String
  subscriptionId : String
  billingCycleSequence : Int
  attemptSequence : Int
  paymentStatus : String
  paymentAt : Timestamp
  paymentValue : Money
  currencyCode : String
  billingPeriodStartAt : Timestamp
  billingPeriodEndAt : Timestamp
  paymentMethodType : Option String
  paymentProvider : Option String
  providerPaymentId : Option String
  failureCode : Option String
  updatedAt : Timestamp
deriving DecidableEq

structure ProductsRow where
  productId : String
  updatedAt : Timestamp
deriving DecidableEq

structure SellersRow where
  sellerId : String
  updatedAt : Timestamp
deriving DecidableEq

structure OrdersRow where
  orderId : String
  customerId : String
  orderStatus : String
  orderPurchaseTimestamp : Timestamp
  orderApprovedAt : Option Timestamp
  orderDeliveredCarrierDate : Option Timestamp
  orderDeliveredCustomerDate : Option Timestamp
  orderEstimatedDeliveryDate : Option Timestamp
  updatedAt : Timestamp
deriving DecidableEq

structure OrderItemsRow where
  orderId : String
  orderItemId : Int
  productId : String
  sellerId : String
  shippingLimitDate : Timestamp
  price : Money
  freightValue : Money
  createdAt : Timestamp
deriving DecidableEq

structure OrderPaymentsRow where
  orderId : String
  paymentSequential : Int
  paymentValue : Money
  paymentStatus : String
  updatedAt : Timestamp
deriving DecidableEq

/-- The rows of one Bronze object, of one of the nine source tables. -/
inductive ObjectRows where
  | customers (rows : List CustomersRow)
  | customerSubscriptions (rows : List CustomerSubscriptionsRow)
  | customerMembershipTiers (rows : List CustomerMembershipTiersRow)
  | subscriptionPayments (rows : List SubscriptionPaymentsRow)
  | products (rows : List ProductsRow)
  | sellers (rows : List SellersRow)
  | orders (rows : List OrdersRow)
  | orderItems (rows : List OrderItemsRow)
  | orderPayments (rows : List OrderPaymentsRow)

namespace ObjectRows

def customersOf : ObjectRows → List CustomersRow
  | .customers rows => rows
  | _ => []

def customerSubscriptionsOf : ObjectRows → List CustomerSubscriptionsRow
  | .customerSubscriptions rows => rows
  | _ => []

def customerMembershipTiersOf : ObjectRows → List CustomerMembershipTiersRow
  | .customerMembershipTiers rows => rows
  | _ => []

def subscriptionPaymentsOf : ObjectRows → List SubscriptionPaymentsRow
  | .subscriptionPayments rows => rows
  | _ => []

def productsOf : ObjectRows → List ProductsRow
  | .products rows => rows
  | _ => []

def sellersOf : ObjectRows → List SellersRow
  | .sellers rows => rows
  | _ => []

def ordersOf : ObjectRows → List OrdersRow
  | .orders rows => rows
  | _ => []

def orderItemsOf : ObjectRows → List OrderItemsRow
  | .orderItems rows => rows
  | _ => []

def orderPaymentsOf : ObjectRows → List OrderPaymentsRow
  | .orderPayments rows => rows
  | _ => []

end ObjectRows

/-- A committed Bronze object: its batch id, the time of its ingestion and its rows. -/
structure BronzeObject where
  batchId : String
  ingestedAt : Timestamp
  rows : ObjectRows

/-- `control.bronze_files`: the committed objects a build reads, in the order they were
committed. The order means nothing to the models. -/
abbrev Catalog := List BronzeObject

/-- A Bronze row with its technical columns. -/
structure Landed (ρ : Type) where
  row : ρ
  batchId : String
  ingestedAt : Timestamp
deriving DecidableEq

/-- The rows of an object of table `table`, with its technical columns. -/
def BronzeObject.landed {ρ : Type} (table : ObjectRows → List ρ) (o : BronzeObject) :
    List (Landed ρ) :=
  (table o.rows).map fun r => ⟨r, o.batchId, o.ingestedAt⟩

/-- `bronze_source`: every row of one source table, with the technical columns of its object. -/
def Catalog.rows {ρ : Type} (table : ObjectRows → List ρ) (c : Catalog) : List (Landed ρ) :=
  c.flatMap (BronzeObject.landed table)

theorem Catalog.rows_append {ρ : Type} (table : ObjectRows → List ρ) (c d : Catalog) :
    Catalog.rows table (c ++ d) = Catalog.rows table c ++ Catalog.rows table d :=
  List.flatMap_append ..

/-- A row carries the batch id of its object. -/
theorem Catalog.object_of_row {ρ : Type} {table : ObjectRows → List ρ} {c : Catalog}
    {r : Landed ρ} (h : r ∈ Catalog.rows table c) : ∃ o ∈ c, o.batchId = r.batchId := by
  obtain ⟨o, ho, hr⟩ := List.mem_flatMap.1 h
  obtain ⟨r', -, rfl⟩ := List.mem_map.1 hr
  exact ⟨o, ho, rfl⟩

/-- `order by <time> desc, _ingested_at desc, _batch_id desc`. -/
abbrev RecordRank := Timestamp ×ₗ Timestamp ×ₗ String

def recordRank {ρ : Type} (time : ρ → Timestamp) (r : Landed ρ) : RecordRank :=
  toLex (time r.row, toLex (r.ingestedAt, r.batchId))

/-- `order by _ingested_at desc, _batch_id desc`. -/
def ingestRank {ρ : Type} (r : Landed ρ) : Timestamp ×ₗ String :=
  toLex (r.ingestedAt, r.batchId)

/-- `current_bronze_records`: the latest row per primary key, by its time, then the time of
ingestion, then the batch id. -/
def currentBronzeRecords {ρ κ : Type} [DecidableEq κ] (table : ObjectRows → List ρ)
    (key : ρ → κ) (time : ρ → Timestamp) (c : Catalog) : List (Landed ρ) :=
  current (fun r => key r.row) (recordRank time) (c.rows table)

/-- The row `current_bronze_records` keeps for one key. -/
def currentBronzeRecord {ρ κ : Type} [DecidableEq κ] (table : ObjectRows → List ρ)
    (key : ρ → κ) (time : ρ → Timestamp) (c : Catalog) (k : κ) : Option (Landed ρ) :=
  latest (fun r => key r.row) (recordRank time) (c.rows table) k

theorem mem_currentBronzeRecords {ρ κ : Type} [DecidableEq κ] {table : ObjectRows → List ρ}
    {key : ρ → κ} {time : ρ → Timestamp} {c : Catalog} {r : Landed ρ} :
    r ∈ currentBronzeRecords table key time c ↔
      currentBronzeRecord table key time c (key r.row) = some r := mem_current

theorem key_of_currentBronzeRecord {ρ κ : Type} [DecidableEq κ] {table : ObjectRows → List ρ}
    {key : ρ → κ} {time : ρ → Timestamp} {c : Catalog} {k : κ} {r : Landed ρ}
    (h : currentBronzeRecord table key time c k = some r) : key r.row = k :=
  key_of_latest (fun r : Landed ρ => key r.row) h

/-- The partition of `dedupe_observations`: key, update time, attribute hash. -/
abbrev ObservationKey := String × Timestamp × String

/-- `dedupe_observations`: of equal observations the one ingested last. An observation extracted
again counts as new, with a later batch id. -/
def dedupeObservations {ρ : Type} (key : ρ → String) (time : ρ → Timestamp)
    (hash : ρ → String) (rows : List (Landed ρ)) : List (Landed ρ) :=
  current (fun r => (key r.row, time r.row, hash r.row)) ingestRank rows

/-- `standardized_order_status`. -/
def standardizedOrderStatus : String → Option String
  | "created" => some "CREATED"
  | "approved" => some "APPROVED"
  | "processing" => some "PROCESSING"
  | "invoiced" => some "INVOICED"
  | "shipped" => some "SHIPPED"
  | "delivered" => some "DELIVERED"
  | "canceled" => some "CANCELED"
  | "unavailable" => some "UNAVAILABLE"
  | _ => none

/-- `standardized_payment_status`. -/
def standardizedPaymentStatus : String → Option String
  | "pending" => some "PENDING"
  | "completed" => some "COMPLETED"
  | "failed" => some "FAILED"
  | "refunded" => some "REFUNDED"
  | _ => none

/-! ## The staging models -/

/-- `stg_customers_current`. -/
def stgCustomersCurrent (c : Catalog) : List (Landed CustomersRow) :=
  currentBronzeRecords ObjectRows.customersOf CustomersRow.customerId CustomersRow.createdAt c

/-- The `stg_customers_current` row of a source customer, for the left joins on it. -/
def customerOf (c : Catalog) (sourceCustomerId : String) : Option CustomersRow :=
  (currentBronzeRecord ObjectRows.customersOf CustomersRow.customerId CustomersRow.createdAt c
    sourceCustomerId).map Landed.row

/-- The current Bronze row of every order. -/
def ordersCurrent (c : Catalog) : List (Landed OrdersRow) :=
  currentBronzeRecords ObjectRows.ordersOf OrdersRow.orderId OrdersRow.updatedAt c

/-- A row of `stg_orders`: the current order with its customer's unique id. -/
structure StgOrder where
  order : OrdersRow
  customerId : Option String
  batchId : String

/-- `left join stg_customers_current using (source_customer_id)`: an order whose customer is not
there has no unique id. -/
def stgOrder (c : Catalog) (o : Landed OrdersRow) : StgOrder :=
  ⟨o.row, (customerOf c o.row.customerId).map CustomersRow.customerUniqueId, o.batchId⟩

/-- `stg_orders`. -/
def stgOrders (c : Catalog) : List StgOrder := (ordersCurrent c).map (stgOrder c)

/-- The `stg_orders` row of an order, for the joins on it. -/
def stgOrderOf (c : Catalog) (orderId : String) : Option StgOrder :=
  (currentBronzeRecord ObjectRows.ordersOf OrdersRow.orderId OrdersRow.updatedAt c orderId).map
    (stgOrder c)

/-- `stg_order_items`. -/
def stgOrderItems (c : Catalog) : List (Landed OrderItemsRow) :=
  currentBronzeRecords ObjectRows.orderItemsOf (fun r => (r.orderId, r.orderItemId))
    OrderItemsRow.createdAt c

/-- `stg_payments`. -/
def stgPayments (c : Catalog) : List (Landed OrderPaymentsRow) :=
  currentBronzeRecords ObjectRows.orderPaymentsOf (fun r => (r.orderId, r.paymentSequential))
    OrderPaymentsRow.updatedAt c

/-- `stg_products`. -/
def stgProducts (c : Catalog) : List (Landed ProductsRow) :=
  currentBronzeRecords ObjectRows.productsOf ProductsRow.productId ProductsRow.updatedAt c

/-- `stg_sellers`. -/
def stgSellers (c : Catalog) : List (Landed SellersRow) :=
  currentBronzeRecords ObjectRows.sellersOf SellersRow.sellerId SellersRow.updatedAt c

/-- The current row of a subscription, for the join in `stg_subscription_payments`. -/
def subscriptionOf (c : Catalog) (subscriptionId : String) : Option CustomerSubscriptionsRow :=
  (currentBronzeRecord ObjectRows.customerSubscriptionsOf CustomerSubscriptionsRow.subscriptionId
    CustomerSubscriptionsRow.updatedAt c subscriptionId).map Landed.row

/-- The current Bronze row of every subscription payment. -/
def subscriptionPaymentsCurrent (c : Catalog) : List (Landed SubscriptionPaymentsRow) :=
  currentBronzeRecords ObjectRows.subscriptionPaymentsOf SubscriptionPaymentsRow.paymentId
    SubscriptionPaymentsRow.updatedAt c

/-- A row of `stg_subscription_payments`: the current payment with the customer of
its current subscription. -/
structure StgSubscriptionPayment where
  payment : SubscriptionPaymentsRow
  customerId : String
  batchId : String

/-- `join subscriptions on payments.subscription_id = subscriptions.subscription_id`: a payment
without its subscription is not in the staging model at all. -/
def stgSubscriptionPayment (c : Catalog) (p : Landed SubscriptionPaymentsRow) :
    Option StgSubscriptionPayment :=
  (subscriptionOf c p.row.subscriptionId).map fun s => ⟨p.row, s.customerUniqueId, p.batchId⟩

/-- `stg_subscription_payments`. -/
def stgSubscriptionPayments (c : Catalog) : List StgSubscriptionPayment :=
  (subscriptionPaymentsCurrent c).filterMap (stgSubscriptionPayment c)

section Observations

variable (engine : Engine)

/-- The attribute hash of a tier observation. -/
def tierHash (r : CustomerMembershipTiersRow) : String :=
  engine.md5 ("membership_tier:" ++ toString r.membershipTier.length ++ ":" ++ r.membershipTier)

/-- `coalesce('<label>:' || <value>, '<label>:')`. -/
def hashPart (label : String) (value : Option String) : String := label ++ ":" ++ value.getD ""

/-- The attribute hash of a subscription observation. -/
def subscriptionHash (r : CustomerSubscriptionsRow) : String :=
  let timestamp := fun t : Option Timestamp => t.map engine.timestampText
  engine.md5 (hashPart "status" (some r.subscriptionStatus)
    ++ "|" ++ hashPart "renew" (some (if r.autoRenewEnabled then "true" else "false"))
    ++ "|" ++ hashPart "period-start" (timestamp r.currentPeriodStartedAt)
    ++ "|" ++ hashPart "period-end" (timestamp r.currentPeriodEndsAt)
    ++ "|" ++ hashPart "failed" (timestamp r.paymentFailedAt)
    ++ "|" ++ hashPart "cancel" (timestamp r.cancelRequestedAt)
    ++ "|" ++ hashPart "ended" (timestamp r.endedAt))

/-- `stg_customer_tier_observations`. -/
def stgCustomerTierObservations (c : Catalog) : List (Landed CustomerMembershipTiersRow) :=
  dedupeObservations CustomerMembershipTiersRow.customerUniqueId
    CustomerMembershipTiersRow.updatedAt (tierHash engine)
    (c.rows ObjectRows.customerMembershipTiersOf)

/-- `stg_customer_subscription_observations`. -/
def stgCustomerSubscriptionObservations (c : Catalog) : List (Landed CustomerSubscriptionsRow) :=
  dedupeObservations CustomerSubscriptionsRow.subscriptionId CustomerSubscriptionsRow.updatedAt
    (subscriptionHash engine) (c.rows ObjectRows.customerSubscriptionsOf)

end Observations

end CommercePlatform.Warehouse
