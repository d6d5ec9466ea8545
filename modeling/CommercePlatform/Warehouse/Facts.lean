import Mathlib
import CommercePlatform.Warehouse.Staging
import CommercePlatform.Lib.DeltaBuild
import CommercePlatform.Lib.Scd2
/-!
# History models and fact models

`int_customer_history` and `int_subscription_history` fold the observations of a key
into versions with windows; the two dimensions add the surrogate key. The four fact
models join the current staging rows with each other and, as of the event's time, with
the dimensions. `fullRefresh` is all four, as a function of the catalog: what the facts
should be.

Each fact is written the way the SQL is: for one driving staging row the list of fact
rows it yields (`fctOrderRows` and so on), and the fact as the concatenation over the
driving relation. A left join yields `NULL`s where nothing matches (`leftJoin`), an
inner join yields nothing. This form is what makes an incremental build tractable: a
fact is a table of groups, one per driving row, and recomputing some of the groups is
`Lib.DeltaBuild`.

The windows are `Lib.Scd2`. A version is valid from its own time to that of the next
one, except the first, which is valid from the time the entity began (`created_at`,
`subscription_started_at`): so an event before the first observation finds the first
version, and a first version can change when an earlier observation arrives later. That
exception is where incremental builds go wrong, and `Warehouse.Incremental` is about it.

The dimensions are not tables here but what the joins read of them, the keys of the
versions in force at an instant. `Warehouse.DataTests` has them as rows and proves that
both say the same.
-/

namespace CommercePlatform.Warehouse

open Lib

section Models

variable (engine : Engine)

/-- `order by updated_at, _ingested_at, _batch_id`: the order in which observations are numbered. -/
def Observed {ρ : Type} (time : ρ → Timestamp) (a b : Landed ρ) : Prop :=
  recordRank time a ≤ recordRank time b

instance {ρ : Type} (time : ρ → Timestamp) : DecidableRel (Observed time) :=
  fun _ _ => inferInstanceAs (Decidable (_ ≤ _))

instance {ρ : Type} (time : ρ → Timestamp) : Std.Total (Observed time) where
  total a b := le_total (recordRank time a) (recordRank time b)

instance {ρ : Type} (time : ρ → Timestamp) : IsTrans (Landed ρ) (Observed time) where
  trans _ _ _ h h' := le_trans h h'

/-- The observations of one key in time order. -/
def history {ρ : Type} (key : ρ → String) (time : ρ → Timestamp) (obs : List (Landed ρ))
    (k : String) : List (Landed ρ) :=
  (obs.filter fun r => key r.row = k).insertionSort (Observed time)

/-- How `int_customer_history` reads a tier observation: the first version is
valid from `created_at`, the others from `updated_at`. -/
def customerAxis : Axis (Landed CustomerMembershipTiersRow) String Timestamp where
  time r := r.row.updatedAt
  hash r := tierHash engine r.row
  start r := r.row.createdAt

/-- How `int_subscription_history` reads a subscription observation: the first
version is valid from `subscription_started_at`. -/
def subscriptionAxis : Axis (Landed CustomerSubscriptionsRow) String Timestamp where
  time r := r.row.updatedAt
  hash r := subscriptionHash engine r.row
  start r := r.row.subscriptionStartedAt

/-- The tier observations of a customer in time order. -/
def customerObservations (c : Catalog) (customerId : String) :
    List (Landed CustomerMembershipTiersRow) :=
  history CustomerMembershipTiersRow.customerUniqueId CustomerMembershipTiersRow.updatedAt
    (stgCustomerTierObservations engine c) customerId

/-- The observations of a subscription in time order. -/
def subscriptionObservations (c : Catalog) (subscriptionId : String) :
    List (Landed CustomerSubscriptionsRow) :=
  history CustomerSubscriptionsRow.subscriptionId CustomerSubscriptionsRow.updatedAt
    (stgCustomerSubscriptionObservations engine c) subscriptionId

/-- `md5(concat(<id>, '|', cast(valid_from as varchar), '|', attribute_hash))`: a version that
starts at another time is another key. -/
def versionKey (id : String) (info : Timestamp × String) : String :=
  engine.md5 (id ++ "|" ++ engine.timestampText info.1 ++ "|" ++ info.2)

/-- The `customer_key`s of `dim_customer` a join finds for a customer as of `t`: of the versions
whose window holds `t`. -/
def customerKeysAsOf (c : Catalog) (customerId : String) (t : Timestamp) : List String :=
  (asOf (customerAxis engine) (customerObservations engine c customerId) t).map fun w =>
    versionKey engine customerId ((customerAxis engine).info w)

/-- The `subscription_key`s of `dim_subscription` a join finds as of `t`. -/
def subscriptionKeysAsOf (c : Catalog) (subscriptionId : String) (t : Timestamp) :
    List String :=
  (asOf (subscriptionAxis engine) (subscriptionObservations engine c subscriptionId) t).map
    fun w => versionKey engine subscriptionId ((subscriptionAxis engine).info w)

/-- The right side of a left join: the matches, or one row of `NULL`s. -/
def leftJoin {α : Type} (matching : List α) : List (Option α) :=
  if matching.isEmpty then [none] else matching.map some

/-- A row of `int_orders_enriched`. -/
structure OrderEnriched where
  order : OrdersRow
  customerKey : Option String
  customerCity : Option String
  customerState : Option String

/-- The `dim_customer` keys of an order: its customer as of the purchase. -/
def orderCustomerKeys (c : Catalog) (customerId : Option String) (t : Timestamp) : List String :=
  match customerId with
  | none => []
  | some id => customerKeysAsOf engine c id t

/-- `int_orders_enriched`, the rows of one order: as many as its customer has versions in force,
and one without any. -/
def enrichOrder (c : Catalog) (o : StgOrder) : List OrderEnriched :=
  let customer := customerOf c o.order.customerId
  let keys := orderCustomerKeys engine c o.customerId o.order.orderPurchaseTimestamp
  (leftJoin keys).map fun key =>
    ⟨o.order, key, customer.bind CustomersRow.customerCity,
      customer.bind CustomersRow.customerState⟩

/-- The items of an order in `stg_order_items`. -/
def itemsOf (c : Catalog) (orderId : String) : List (Landed OrderItemsRow) :=
  (stgOrderItems c).filter fun r => r.row.orderId = orderId

/-- The payments of an order in `stg_payments`. -/
def paymentsOf (c : Catalog) (orderId : String) : List (Landed OrderPaymentsRow) :=
  (stgPayments c).filter fun r => r.row.orderId = orderId

structure FctOrder where
  orderId : String
  purchaseAt : Timestamp
  customerKey : Option String
  purchaseDateKey : Int
  orderStatus : Option String
  customerCity : Option String
  customerState : Option String
  grossOrderValue : Money
  paymentTotal : Money
  orderCount : Nat
  carrierHandoffDays : Option Int
  deliveryDays : Option Int
  deliveryDelayDays : Option Int
  isLate : Option Bool
deriving DecidableEq

/-- `int_order_fact_ready` and `fct_order`, for one enriched order. -/
def fctOrderRow (c : Catalog) (e : OrderEnriched) : FctOrder where
  orderId := e.order.orderId
  purchaseAt := e.order.orderPurchaseTimestamp
  customerKey := e.customerKey
  purchaseDateKey := dateKey e.order.orderPurchaseTimestamp
  orderStatus := standardizedOrderStatus e.order.orderStatus
  customerCity := e.customerCity
  customerState := e.customerState
  grossOrderValue :=
    ((itemsOf c e.order.orderId).map fun r => r.row.price).sum
      + ((itemsOf c e.order.orderId).map fun r => r.row.freightValue).sum
  paymentTotal := ((paymentsOf c e.order.orderId).map fun r => r.row.paymentValue).sum
  orderCount := 1
  carrierHandoffDays :=
    e.order.orderDeliveredCarrierDate.map (dayDiff e.order.orderPurchaseTimestamp)
  deliveryDays := e.order.orderDeliveredCustomerDate.map (dayDiff e.order.orderPurchaseTimestamp)
  deliveryDelayDays := e.order.orderEstimatedDeliveryDate.bind fun estimated =>
    e.order.orderDeliveredCustomerDate.map (dayDiff estimated)
  isLate := e.order.orderDeliveredCustomerDate.bind fun delivered =>
    e.order.orderEstimatedDeliveryDate.map fun estimated => decide (estimated < delivered)

/-- The `fct_order` rows of one order. -/
def fctOrderRows (c : Catalog) (o : StgOrder) : List FctOrder :=
  (enrichOrder engine c o).map (fctOrderRow c)

/-- `fct_order` of a full refresh. -/
def fctOrder (c : Catalog) : List FctOrder := (stgOrders c).flatMap (fctOrderRows engine c)

structure FctOrderItem where
  orderId : String
  orderItemId : Int
  productId : String
  sellerId : String
  purchaseDateKey : Option Int
  orderStatus : Option String
  itemPrice : Money
  freightValue : Money
  lineGrossValue : Money
deriving DecidableEq

/-- `int_order_items_enriched` and `fct_order_item`, for one item. -/
def fctOrderItemRow (c : Catalog) (i : Landed OrderItemsRow) : FctOrderItem :=
  let order := (stgOrderOf c i.row.orderId).map StgOrder.order
  { orderId := i.row.orderId
    orderItemId := i.row.orderItemId
    productId := i.row.productId
    sellerId := i.row.sellerId
    purchaseDateKey := order.map fun o => dateKey o.orderPurchaseTimestamp
    orderStatus := order.bind fun o => standardizedOrderStatus o.orderStatus
    itemPrice := i.row.price
    freightValue := i.row.freightValue
    lineGrossValue := i.row.price + i.row.freightValue }

/-- `fct_order_item` of a full refresh. -/
def fctOrderItem (c : Catalog) : List FctOrderItem := (stgOrderItems c).map (fctOrderItemRow c)

structure FctOrderPayment where
  orderId : String
  paymentSequence : Int
  customerKey : Option String
  purchaseDateKey : Option Int
  paymentStatus : Option String
  paymentValue : Money
deriving DecidableEq

/-- The `int_orders_enriched` rows of an order id, for the join on it. -/
def enrichedOf (c : Catalog) (orderId : String) : List OrderEnriched :=
  (stgOrderOf c orderId).toList.flatMap (enrichOrder engine c)

/-- `int_order_payments_enriched` and `fct_order_payment`, for one payment: a payment without its
order has no row. -/
def fctOrderPaymentRows (c : Catalog) (p : Landed OrderPaymentsRow) : List FctOrderPayment :=
  (leftJoin (enrichedOf engine c p.row.orderId)).map fun e =>
    { orderId := p.row.orderId
      paymentSequence := p.row.paymentSequential
      customerKey := e.bind OrderEnriched.customerKey
      purchaseDateKey := e.map fun e => dateKey e.order.orderPurchaseTimestamp
      paymentStatus := standardizedPaymentStatus p.row.paymentStatus
      paymentValue := p.row.paymentValue }

/-- `fct_order_payment` of a full refresh. -/
def fctOrderPayment (c : Catalog) : List FctOrderPayment :=
  (stgPayments c).flatMap (fctOrderPaymentRows engine c)

structure FctSubscriptionPayment where
  paymentId : String
  subscriptionKey : String
  customerKey : String
  paymentDateKey : Int
  subscriptionId : String
  billingCycleSequence : Int
  attemptSequence : Int
  providerPaymentId : Option String
  paymentStatus : Option String
  paymentMethodType : Option String
  paymentProvider : Option String
  failureCode : Option String
  currencyCode : String
  paymentAt : Timestamp
  billingPeriodStartAt : Timestamp
  billingPeriodEndAt : Timestamp
  paymentValue : Money
  completedPaymentValue : Option Money
  attemptCount : Nat
deriving DecidableEq

/-- `int_subscription_payments_enriched` and `fct_subscription_payment`, for one
payment and the two versions it joins. -/
def fctSubscriptionPaymentRow (p : SubscriptionPaymentsRow)
    (subscriptionKey customerKey : String) : FctSubscriptionPayment where
  paymentId := p.paymentId
  subscriptionKey := subscriptionKey
  customerKey := customerKey
  paymentDateKey := dateKey p.paymentAt
  subscriptionId := p.subscriptionId
  billingCycleSequence := p.billingCycleSequence
  attemptSequence := p.attemptSequence
  providerPaymentId := p.providerPaymentId
  paymentStatus := standardizedPaymentStatus p.paymentStatus
  paymentMethodType := p.paymentMethodType
  paymentProvider := p.paymentProvider
  failureCode := p.failureCode
  currencyCode := p.currencyCode
  paymentAt := p.paymentAt
  billingPeriodStartAt := p.billingPeriodStartAt
  billingPeriodEndAt := p.billingPeriodEndAt
  paymentValue := p.paymentValue
  completedPaymentValue :=
    if standardizedPaymentStatus p.paymentStatus = some "COMPLETED" then some p.paymentValue
    else none
  attemptCount := 1

/-- The `fct_subscription_payment` rows of one payment: inner joins with the subscription and the
customer as of the payment, so a payment whose customer has no tier has no row. -/
def fctSubscriptionPaymentRows (c : Catalog) (p : StgSubscriptionPayment) :
    List FctSubscriptionPayment :=
  (subscriptionKeysAsOf engine c p.payment.subscriptionId p.payment.paymentAt).flatMap
    fun subscriptionKey =>
      (customerKeysAsOf engine c p.customerId p.payment.paymentAt).map
        (fctSubscriptionPaymentRow p.payment subscriptionKey)

/-- `fct_subscription_payment` of a full refresh. -/
def fctSubscriptionPayment (c : Catalog) : List FctSubscriptionPayment :=
  (stgSubscriptionPayments c).flatMap (fctSubscriptionPaymentRows engine c)

/-! ## The four facts -/

/-- The four fact tables. -/
structure Facts where
  order : List FctOrder
  orderItem : List FctOrderItem
  orderPayment : List FctOrderPayment
  subscriptionPayment : List FctSubscriptionPayment

/-- What a `--full-refresh` build computes from the catalog: the reference every incremental
build is compared with. -/
def fullRefresh (c : Catalog) : Facts :=
  ⟨fctOrder engine c, fctOrderItem c, fctOrderPayment engine c, fctSubscriptionPayment engine c⟩

end Models

/-- Two states of the facts hold the same rows, table by table, in any order. -/
structure SameFacts (f g : Facts) : Prop where
  order : SameRows f.order g.order
  orderItem : SameRows f.orderItem g.orderItem
  orderPayment : SameRows f.orderPayment g.orderPayment
  subscriptionPayment : SameRows f.subscriptionPayment g.subscriptionPayment

theorem SameFacts.refl (f : Facts) : SameFacts f f :=
  ⟨SameRows.refl _, SameRows.refl _, SameRows.refl _, SameRows.refl _⟩

end CommercePlatform.Warehouse
