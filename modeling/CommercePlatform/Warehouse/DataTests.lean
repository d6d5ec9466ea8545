import CommercePlatform.Warehouse.Build
/-!
# The data tests of a build

`dbt build` runs the models and their data tests together. A test is a query for the
rows that break a rule, and one failing test fails the build: its file goes to the
quarantine, the published file stays, and `advance_processed_batch_watermark` leaves the
boundary alone (its guard on `fail`). So what a successful build says about the facts is
said under these tests, and a chain of builds in which one of them fails is not a chain
the warehouse goes through.

The four generic tests are parameters over a relation and a column, as in `schema.yml`
and `tests/generic`; the singular tests of `tests/*.sql` stand next to the relation they
read. `Passes` is all of them, decidable on any catalog and facts, so that a run of
builds can be tested by computation.

The two dimensions are rows here (`dimCustomer`, `dimSubscription`), because the tests
read them. The joins of `Facts` do not name them: `customerKeysAsOf_iff` says that they
find what a join with the table finds.

Some tests can never fail on the result of a full refresh, because the models make the
rows that way; on the rows an incremental build keeps they can. The last section proves
it of the two relationships of `fct_order` (`fctOrder_related`) and of those of the
subscription payments: a stale `customer_key` is the one thing these tests are there to
find, and a stale attribute they do not see.

Mirroring notes vs `schema.yml` and `tests/*.sql`:

- A test of a column that cannot be `NULL` in Bronze (`not_null`), or of the key a
  staging model deduplicates by (`unique`), always passes and has no counterpart. The
  same holds of the `rpt_*` tests: the metrics group rows of facts and dimensions by
  columns that are tested there.
- `stg_source_mapping` compares the current Bronze rows with the staging rows made of
  them. Of its branches those are here that can fail: the order items (every Bronze row,
  not only the current one, is compared), the observations (joined on key and time, so a
  second observation of that time is compared too) and the subscription payments (the
  staging model drops one without a subscription).
- `row_number` and `lag` over equal sort keys may number them either way; here they keep
  the order of the table.
- `publish_gate_canary` fails on request only and is off.
-/

namespace CommercePlatform.Warehouse

open Lib

section Generic

variable {ρ α : Type}

/-- `not_null`. -/
def NotNull (column : ρ → Option α) (rows : List ρ) : Prop := ∀ r ∈ rows, column r ≠ none

/-- `unique`, and the singular tests that count the rows of a group. -/
def UniqueColumn (column : ρ → α) (rows : List ρ) : Prop := (rows.map column).Nodup

/-- `accepted_values`; a `NULL` passes. -/
def AcceptedValues (values : List α) (column : ρ → Option α) (rows : List ρ) : Prop :=
  ∀ r ∈ rows, ∀ v ∈ column r, v ∈ values

/-- `relationships`: every value of the column is in `field`, the column of the parent
relation; a `NULL` passes. -/
def Relationships (field : List α) (column : ρ → Option α) (rows : List ρ) : Prop :=
  ∀ r ∈ rows, ∀ v ∈ column r, v ∈ field

/-- `non_negative`. -/
def NonNegative (column : ρ → Money) (rows : List ρ) : Prop := ∀ r ∈ rows, 0 ≤ column r

variable [DecidableEq α] (column : ρ → Option α) (rows : List ρ)

instance : Decidable (NotNull column rows) := inferInstanceAs (Decidable (∀ r ∈ rows, _))

instance (column : ρ → α) : Decidable (UniqueColumn column rows) :=
  inferInstanceAs (Decidable (List.Nodup _))

instance (values : List α) : Decidable (AcceptedValues values column rows) :=
  inferInstanceAs (Decidable (∀ r ∈ rows, _))

instance (field : List α) : Decidable (Relationships field column rows) :=
  inferInstanceAs (Decidable (∀ r ∈ rows, _))

instance (column : ρ → Money) : Decidable (NonNegative column rows) :=
  inferInstanceAs (Decidable (∀ r ∈ rows, _))

end Generic

/-- `data_tests: [not_null, accepted_values]`, the tests of a status column. -/
def StatusColumn {ρ : Type} (values : List String) (column : ρ → Option String)
    (rows : List ρ) : Prop :=
  NotNull column rows ∧ AcceptedValues values column rows

instance {ρ : Type} (values : List String) (column : ρ → Option String) (rows : List ρ) :
    Decidable (StatusColumn values column rows) := inferInstanceAs (Decidable (_ ∧ _))

def orderStatuses : List String :=
  ["CREATED", "APPROVED", "PROCESSING", "INVOICED", "SHIPPED", "DELIVERED", "CANCELED",
    "UNAVAILABLE"]

def paymentStatuses : List String := ["PENDING", "COMPLETED", "FAILED", "REFUNDED"]

def subscriptionPaymentStatuses : List String := ["COMPLETED", "FAILED"]

def subscriptionStatuses : List String :=
  ["ACTIVE", "PAYMENT_FAILED", "CANCEL_REQUESTED", "CHURNED"]

def membershipTiers : List String := ["BRONZE", "SILVER", "GOLD"]

/-- A row of `dim_customer` or `dim_subscription`: the entity, the surrogate key and the
version with its window. -/
structure DimVersion (ρ : Type) where
  id : String
  key : String
  window : Window (Landed ρ) Timestamp

/-- `is_current`. -/
def DimVersion.IsCurrent {ρ : Type} (v : DimVersion ρ) : Prop := v.window.validTo = none

instance {ρ : Type} : DecidablePred (DimVersion.IsCurrent (ρ := ρ)) :=
  fun v => inferInstanceAs (Decidable (v.window.validTo = none))

section Models

variable (engine : Engine)

/-- The versions of all entities. -/
def dimVersions {ρ : Type} (axis : Axis (Landed ρ) String Timestamp)
    (observations : String → List (Landed ρ)) (ids : List String) : List (DimVersion ρ) :=
  (distinct ids).flatMap fun id => (windows axis (observations id)).map fun w =>
    ⟨id, versionKey engine id (axis.info w), w⟩

/-- `dim_customer`. -/
def dimCustomer (c : Catalog) : List (DimVersion CustomerMembershipTiersRow) :=
  dimVersions engine (customerAxis engine) (customerObservations engine c)
    ((stgCustomerTierObservations engine c).map fun v => v.row.customerUniqueId)

/-- `dim_subscription`. -/
def dimSubscription (c : Catalog) : List (DimVersion CustomerSubscriptionsRow) :=
  dimVersions engine (subscriptionAxis engine) (subscriptionObservations engine c)
    ((stgCustomerSubscriptionObservations engine c).map fun v => v.row.subscriptionId)

/-- The days of the events of `dim_date`. -/
def eventDays (c : Catalog) : List Int :=
  (stgOrders c).map (fun o => dayOf o.order.orderPurchaseTimestamp)
    ++ (stgSubscriptionPayments c).map fun p => dayOf p.payment.paymentAt

/-- `dim_date`, its `date_key`: the days from the first event to the last. -/
def dimDate (c : Catalog) : List Int :=
  match (eventDays c).min?, (eventDays c).max? with
  | some first, some last =>
    (List.range (last - first + 1).toNat).map fun n : Nat =>
      dateKey ((first + n) * microsPerDay)
  | _, _ => []

/-- The versions of one entity in the order of `valid_from` and key. -/
def versionsOf {ρ : Type} (rows : List (DimVersion ρ)) (id : String) : List (DimVersion ρ) :=
  (rows.filter fun v => v.id = id).insertionSort fun v w =>
    toLex (v.window.validFrom, v.key) ≤ toLex (w.window.validFrom, w.key)

/-- Neighbouring versions of an entity satisfy `R`, as a test with `lag` or `lead` asks. -/
def Successive {ρ : Type} (R : DimVersion ρ → DimVersion ρ → Prop) (rows : List (DimVersion ρ)) :
    Prop := ∀ v ∈ rows, (versionsOf rows v.id).IsChain R

instance {ρ : Type} (R : DimVersion ρ → DimVersion ρ → Prop) [DecidableRel R]
    (rows : List (DimVersion ρ)) : Decidable (Successive R rows) :=
  inferInstanceAs (Decidable (∀ v ∈ rows, _))

/-- The SCD2 tests both dimensions have. -/
structure Scd2Passes {ρ : Type} (rows : List (DimVersion ρ)) : Prop where
  /-- `unique` of the surrogate key. -/
  keyUnique : UniqueColumn DimVersion.key rows
  /-- `exactly_one_current_version`. -/
  oneCurrent : ∀ v ∈ rows, (rows.filter fun w => w.id = v.id ∧ w.IsCurrent).length = 1
  /-- `first_version_effective_from_is_negative_infinity`. -/
  firstFromInfinity : ∀ v ∈ rows,
    ∀ w ∈ ((rows.filter fun w => w.id = v.id).insertionSort fun w x =>
      w.window.validFrom ≤ x.window.validFrom).head?, w.window.effectiveFrom = none
  /-- `scd2_no_overlapping_ranges`. -/
  noOverlap : Successive (fun v w => ∀ u ∈ v.window.validTo, u ≤ w.window.validFrom) rows

instance {ρ : Type} (rows : List (DimVersion ρ)) : Decidable (Scd2Passes rows) :=
  decidable_of_iff (_ ∧ _ ∧ _ ∧ _)
    ⟨fun ⟨keyUnique, oneCurrent, firstFromInfinity, noOverlap⟩ =>
      ⟨keyUnique, oneCurrent, firstFromInfinity, noOverlap⟩,
    fun h => ⟨h.keyUnique, h.oneCurrent, h.firstFromInfinity, h.noOverlap⟩⟩

/-- `case membership_tier when 'BRONZE' then 1 …`. -/
def tierRank : String → Option Nat
  | "BRONZE" => some 1
  | "SILVER" => some 2
  | "GOLD" => some 3
  | _ => none

/-- The transitions `dim_subscription_transition_valid` lets pass. -/
def TransitionValid (before after : String) : Prop :=
  before = after ∨
  before = "ACTIVE" ∧ after ∈ ["PAYMENT_FAILED", "CANCEL_REQUESTED"] ∨
  before = "PAYMENT_FAILED" ∧ after ∈ ["ACTIVE", "CANCEL_REQUESTED", "CHURNED"] ∨
  before = "CANCEL_REQUESTED" ∧ after ∈ ["ACTIVE", "CHURNED"]

instance : DecidableRel TransitionValid := fun _ _ => inferInstanceAs (Decidable (_ ∨ _))

/-- The tests of the two SCD2 dimensions. -/
structure DimensionsPass (c : Catalog) : Prop where
  customer : Scd2Passes (dimCustomer engine c)
  /-- `dim_customer_membership_tier_non_decreasing`. -/
  tierNonDecreasing : Successive (fun v w => ∀ x ∈ tierRank v.window.version.row.membershipTier,
    ∀ y ∈ tierRank w.window.version.row.membershipTier, x ≤ y) (dimCustomer engine c)
  subscription : Scd2Passes (dimSubscription engine c)
  /-- `dim_subscription_version_unique`. -/
  versionUnique : UniqueColumn (fun v => (v.id, v.window.validFrom)) (dimSubscription engine c)
  /-- `dim_subscription_one_open_contract`. -/
  oneOpenContract : UniqueColumn (fun v => v.window.version.row.customerUniqueId)
    ((dimSubscription engine c).filter fun v => v.IsCurrent ∧
      v.window.version.row.subscriptionStatus ∈ ["ACTIVE", "PAYMENT_FAILED", "CANCEL_REQUESTED"])
  /-- `dim_subscription_transition_valid`. -/
  transitionValid : Successive (fun v w => TransitionValid
    v.window.version.row.subscriptionStatus w.window.version.row.subscriptionStatus)
    (dimSubscription engine c)

instance (c : Catalog) : Decidable (DimensionsPass engine c) :=
  decidable_of_iff (_ ∧ _ ∧ _ ∧ _ ∧ _ ∧ _)
    ⟨fun ⟨customer, tierNonDecreasing, subscription, versionUnique, oneOpenContract,
        transitionValid⟩ =>
      ⟨customer, tierNonDecreasing, subscription, versionUnique, oneOpenContract,
        transitionValid⟩,
    fun h => ⟨h.customer, h.tierNonDecreasing, h.subscription, h.versionUnique,
      h.oneOpenContract, h.transitionValid⟩⟩

/-- The columns `stg_source_mapping` compares between an order item of Bronze and the
current one. -/
structure MappedItem where
  productId : String
  sellerId : String
  shippingLimitDate : Timestamp
  price : Money
  freightValue : Money
deriving DecidableEq

def mappedItem (r : OrderItemsRow) : MappedItem :=
  ⟨r.productId, r.sellerId, r.shippingLimitDate, r.price, r.freightValue⟩

/-- The columns `stg_source_mapping` compares between the current row of a subscription
and its observations of that time. -/
structure MappedSubscription where
  subscriptionStatus : String
  autoRenewEnabled : Bool
  subscriptionStartedAt : Timestamp
  currentPeriodStartedAt : Option Timestamp
  currentPeriodEndsAt : Option Timestamp
  paymentFailedAt : Option Timestamp
  cancelRequestedAt : Option Timestamp
  createdAt : Timestamp
deriving DecidableEq

def mappedSubscription (r : CustomerSubscriptionsRow) : MappedSubscription :=
  ⟨r.subscriptionStatus, r.autoRenewEnabled, r.subscriptionStartedAt, r.currentPeriodStartedAt,
    r.currentPeriodEndsAt, r.paymentFailedAt, r.cancelRequestedAt, r.createdAt⟩

/-- The columns `stg_source_mapping` compares between the current tier row of a customer
and its observations of that time. -/
def mappedTier (r : CustomerMembershipTiersRow) : String × Timestamp :=
  (r.membershipTier, r.createdAt)

/-- A branch of `stg_source_mapping`: the staged rows a source row is joined with have its
columns. -/
def Mapped {ρ κ τ : Type} (key : ρ → κ) (columns : ρ → τ) (source staged : List (Landed ρ)) :
    Prop := ∀ r ∈ source, ∀ s ∈ staged, key s.row = key r.row → columns s.row = columns r.row

instance {ρ κ τ : Type} [DecidableEq κ] [DecidableEq τ] (key : ρ → κ) (columns : ρ → τ)
    (source staged : List (Landed ρ)) : Decidable (Mapped key columns source staged) :=
  inferInstanceAs (Decidable (∀ r ∈ source, _))

/-- `stg_source_mapping`. -/
structure SourceMapping (c : Catalog) : Prop where
  items : Mapped (fun r => (r.orderId, r.orderItemId)) mappedItem
    (c.rows ObjectRows.orderItemsOf) (stgOrderItems c)
  subscriptions : Mapped (fun r => (r.subscriptionId, r.updatedAt)) mappedSubscription
    (currentBronzeRecords ObjectRows.customerSubscriptionsOf
      CustomerSubscriptionsRow.subscriptionId CustomerSubscriptionsRow.updatedAt c)
    (stgCustomerSubscriptionObservations engine c)
  tiers : Mapped (fun r => (r.customerUniqueId, r.updatedAt)) mappedTier
    (currentBronzeRecords ObjectRows.customerMembershipTiersOf
      CustomerMembershipTiersRow.customerUniqueId CustomerMembershipTiersRow.updatedAt c)
    (stgCustomerTierObservations engine c)
  subscriptionPayments : NotNull (fun p => subscriptionOf c p.row.subscriptionId)
    (subscriptionPaymentsCurrent c)

instance (c : Catalog) : Decidable (SourceMapping engine c) :=
  decidable_of_iff (_ ∧ _ ∧ _ ∧ _)
    ⟨fun ⟨items, subscriptions, tiers, subscriptionPayments⟩ =>
      ⟨items, subscriptions, tiers, subscriptionPayments⟩,
    fun h => ⟨h.items, h.subscriptions, h.tiers, h.subscriptionPayments⟩⟩

/-- The tests of the staging models. -/
structure StagingPasses (c : Catalog) : Prop where
  paymentStatus : StatusColumn paymentStatuses
    (fun p => standardizedPaymentStatus p.row.paymentStatus) (stgPayments c)
  subscriptionStatus : StatusColumn subscriptionStatuses
    (fun v => some v.row.subscriptionStatus) (stgCustomerSubscriptionObservations engine c)
  membershipTier : StatusColumn membershipTiers (fun v => some v.row.membershipTier)
    (stgCustomerTierObservations engine c)
  subscriptionPaymentStatus : StatusColumn subscriptionPaymentStatuses
    (fun p => standardizedPaymentStatus p.payment.paymentStatus) (stgSubscriptionPayments c)
  orderCustomer : NotNull StgOrder.customerId (stgOrders c)
  orderStatus : StatusColumn orderStatuses
    (fun o => standardizedOrderStatus o.order.orderStatus) (stgOrders c)
  /-- `stg_orders_timestamp_order`. -/
  ordersTimestampOrder : ∀ o ∈ stgOrders c,
    (∀ t ∈ o.order.orderApprovedAt, o.order.orderPurchaseTimestamp ≤ t) ∧
    ∀ t ∈ o.order.orderDeliveredCustomerDate, o.order.orderPurchaseTimestamp ≤ t
  /-- `stg_customer_subscription_observations_unique`, by the customer. -/
  subscriptionObservationsUnique : UniqueColumn
    (fun v => (v.row.customerUniqueId, v.row.updatedAt, subscriptionHash engine v.row))
    (stgCustomerSubscriptionObservations engine c)
  /-- `int_customer_history_no_conflicting_hash`, of the subscriptions. -/
  subscriptionHash : ∀ v ∈ stgCustomerSubscriptionObservations engine c,
    ∀ w ∈ stgCustomerSubscriptionObservations engine c,
      (v.row.customerUniqueId, v.row.updatedAt) = (w.row.customerUniqueId, w.row.updatedAt) →
        subscriptionHash engine v.row = subscriptionHash engine w.row
  /-- `int_customer_history_no_conflicting_hash`, of the tiers. -/
  tierHash : ∀ v ∈ stgCustomerTierObservations engine c,
    ∀ w ∈ stgCustomerTierObservations engine c,
      (v.row.customerUniqueId, v.row.updatedAt) = (w.row.customerUniqueId, w.row.updatedAt) →
        tierHash engine v.row = tierHash engine w.row
  sourceMapping : SourceMapping engine c

instance (c : Catalog) : Decidable (StagingPasses engine c) :=
  decidable_of_iff (_ ∧ _ ∧ _ ∧ _ ∧ _ ∧ _ ∧ _ ∧ _ ∧ _ ∧ _ ∧ _)
    ⟨fun ⟨h₁, h₂, h₃, h₄, h₅, h₆, h₇, h₈, h₉, h₁₀, h₁₁⟩ =>
      ⟨h₁, h₂, h₃, h₄, h₅, h₆, h₇, h₈, h₉, h₁₀, h₁₁⟩,
    fun h => ⟨h.paymentStatus, h.subscriptionStatus, h.membershipTier,
      h.subscriptionPaymentStatus, h.orderCustomer, h.orderStatus, h.ordersTimestampOrder,
      h.subscriptionObservationsUnique, h.subscriptionHash, h.tierHash, h.sourceMapping⟩⟩

/-- The tests of `fct_order`: every order has a customer key that is in the dimension, so an
order built before the tier of its customer fails its build. -/
structure FctOrderPasses (c : Catalog) (f : Facts) : Prop where
  orderUnique : UniqueColumn FctOrder.orderId f.order
  customerKey : NotNull FctOrder.customerKey f.order
  customer : Relationships ((dimCustomer engine c).map DimVersion.key) FctOrder.customerKey f.order
  purchaseDate : Relationships (dimDate c) (fun r => some r.purchaseDateKey) f.order
  orderStatus : StatusColumn orderStatuses FctOrder.orderStatus f.order

instance (c : Catalog) (f : Facts) : Decidable (FctOrderPasses engine c f) :=
  decidable_of_iff (_ ∧ _ ∧ _ ∧ _ ∧ _)
    ⟨fun ⟨h₁, h₂, h₃, h₄, h₅⟩ => ⟨h₁, h₂, h₃, h₄, h₅⟩,
    fun h => ⟨h.orderUnique, h.customerKey, h.customer, h.purchaseDate, h.orderStatus⟩⟩

/-- The sum of the lines of an order, in `fct_order_item_total_matches_order`. -/
def lineTotal (f : Facts) (orderId : String) : Money :=
  ((f.orderItem.filter fun i => i.orderId = orderId).map FctOrderItem.lineGrossValue).sum

/-- The tests of `fct_order_item`. -/
structure FctOrderItemPasses (c : Catalog) (f : Facts) : Prop where
  order : Relationships (f.order.map FctOrder.orderId) (fun r => some r.orderId) f.orderItem
  product : Relationships ((stgProducts c).map fun p => p.row.productId)
    (fun r => some r.productId) f.orderItem
  seller : Relationships ((stgSellers c).map fun s => s.row.sellerId)
    (fun r => some r.sellerId) f.orderItem
  purchaseDateKey : NotNull FctOrderItem.purchaseDateKey f.orderItem
  purchaseDate : Relationships (dimDate c) FctOrderItem.purchaseDateKey f.orderItem
  orderStatus : StatusColumn orderStatuses FctOrderItem.orderStatus f.orderItem
  itemPrice : NonNegative FctOrderItem.itemPrice f.orderItem
  freightValue : NonNegative FctOrderItem.freightValue f.orderItem
  /-- `fct_order_item_unique`. -/
  lineUnique : UniqueColumn (fun r => (r.orderId, r.orderItemId)) f.orderItem
  /-- `fct_order_item_date_matches_order`. -/
  dateMatches : ∀ r ∈ f.orderItem, ∀ o ∈ f.order, r.orderId = o.orderId →
    ∀ d ∈ r.purchaseDateKey, d = o.purchaseDateKey
  /-- `fct_order_item_status_matches_order`. -/
  statusMatches : ∀ r ∈ f.orderItem, ∀ o ∈ f.order, r.orderId = o.orderId →
    r.orderStatus = o.orderStatus
  /-- `fct_order_item_total_matches_order`: they differ by a cent at most. -/
  totalMatches : ∀ o ∈ f.order, (o.grossOrderValue - lineTotal f o.orderId).natAbs ≤ 1

instance (c : Catalog) (f : Facts) : Decidable (FctOrderItemPasses c f) :=
  decidable_of_iff (_ ∧ _ ∧ _ ∧ _ ∧ _ ∧ _ ∧ _ ∧ _ ∧ _ ∧ _ ∧ _ ∧ _)
    ⟨fun ⟨h₁, h₂, h₃, h₄, h₅, h₆, h₇, h₈, h₉, h₁₀, h₁₁, h₁₂⟩ =>
      ⟨h₁, h₂, h₃, h₄, h₅, h₆, h₇, h₈, h₉, h₁₀, h₁₁, h₁₂⟩,
    fun h => ⟨h.order, h.product, h.seller, h.purchaseDateKey, h.purchaseDate, h.orderStatus,
      h.itemPrice, h.freightValue, h.lineUnique, h.dateMatches, h.statusMatches, h.totalMatches⟩⟩

/-- The tests of `fct_order_payment`. -/
structure FctOrderPaymentPasses (c : Catalog) (f : Facts) : Prop where
  order : Relationships (f.order.map FctOrder.orderId) (fun r => some r.orderId) f.orderPayment
  customerKey : NotNull FctOrderPayment.customerKey f.orderPayment
  customer : Relationships ((dimCustomer engine c).map DimVersion.key)
    FctOrderPayment.customerKey f.orderPayment
  purchaseDateKey : NotNull FctOrderPayment.purchaseDateKey f.orderPayment
  purchaseDate : Relationships (dimDate c) FctOrderPayment.purchaseDateKey f.orderPayment
  paymentStatus : StatusColumn paymentStatuses FctOrderPayment.paymentStatus f.orderPayment
  paymentValue : NonNegative FctOrderPayment.paymentValue f.orderPayment
  /-- `fct_order_payment_unique`. -/
  sequenceUnique : UniqueColumn (fun r => (r.orderId, r.paymentSequence)) f.orderPayment
  /-- `fct_order_payment_customer_matches_order`. -/
  customerMatches : ∀ r ∈ f.orderPayment, ∀ o ∈ f.order, r.orderId = o.orderId →
    ∀ k ∈ r.customerKey, ∀ k' ∈ o.customerKey, k = k'
  /-- `fct_order_payment_date_matches_order`. -/
  dateMatches : ∀ r ∈ f.orderPayment, ∀ o ∈ f.order, r.orderId = o.orderId →
    ∀ d ∈ r.purchaseDateKey, d = o.purchaseDateKey

instance (c : Catalog) (f : Facts) : Decidable (FctOrderPaymentPasses engine c f) :=
  decidable_of_iff (_ ∧ _ ∧ _ ∧ _ ∧ _ ∧ _ ∧ _ ∧ _ ∧ _ ∧ _)
    ⟨fun ⟨h₁, h₂, h₃, h₄, h₅, h₆, h₇, h₈, h₉, h₁₀⟩ =>
      ⟨h₁, h₂, h₃, h₄, h₅, h₆, h₇, h₈, h₉, h₁₀⟩,
    fun h => ⟨h.order, h.customerKey, h.customer, h.purchaseDateKey, h.purchaseDate,
      h.paymentStatus, h.paymentValue, h.sequenceUnique, h.customerMatches, h.dateMatches⟩⟩

/-- The tests of `fct_subscription_payment`. -/
structure FctSubscriptionPaymentPasses (c : Catalog) (f : Facts) : Prop where
  paymentUnique : UniqueColumn FctSubscriptionPayment.paymentId f.subscriptionPayment
  subscription : Relationships ((dimSubscription engine c).map DimVersion.key)
    (fun r => some r.subscriptionKey) f.subscriptionPayment
  customer : Relationships ((dimCustomer engine c).map DimVersion.key)
    (fun r => some r.customerKey) f.subscriptionPayment
  paymentDate : Relationships (dimDate c) (fun r => some r.paymentDateKey) f.subscriptionPayment
  paymentStatus : StatusColumn subscriptionPaymentStatuses
    FctSubscriptionPayment.paymentStatus f.subscriptionPayment
  paymentValue : NonNegative FctSubscriptionPayment.paymentValue f.subscriptionPayment
  /-- `fct_subscription_payment_cycle_attempt_unique`. -/
  attemptUnique : UniqueColumn
    (fun r => (r.subscriptionId, r.billingCycleSequence, r.attemptSequence)) f.subscriptionPayment
  /-- `fct_subscription_payment_completed_value_consistent`. -/
  completedValue : ∀ r ∈ f.subscriptionPayment,
    (r.paymentStatus = some "COMPLETED" → r.completedPaymentValue = some r.paymentValue) ∧
    (r.paymentStatus = some "FAILED" → r.completedPaymentValue = none)
  /-- `fct_subscription_payment_failure_code_consistent`. -/
  failureCode : ∀ r ∈ f.subscriptionPayment,
    r.paymentStatus = some "COMPLETED" → r.failureCode = none

instance (c : Catalog) (f : Facts) : Decidable (FctSubscriptionPaymentPasses engine c f) :=
  decidable_of_iff (_ ∧ _ ∧ _ ∧ _ ∧ _ ∧ _ ∧ _ ∧ _ ∧ _)
    ⟨fun ⟨h₁, h₂, h₃, h₄, h₅, h₆, h₇, h₈, h₉⟩ => ⟨h₁, h₂, h₃, h₄, h₅, h₆, h₇, h₈, h₉⟩,
    fun h => ⟨h.paymentUnique, h.subscription, h.customer, h.paymentDate, h.paymentStatus,
      h.paymentValue, h.attemptUnique, h.completedValue, h.failureCode⟩⟩

/-- All data tests pass on the catalog and the fact tables of a build. -/
structure Passes (c : Catalog) (f : Facts) : Prop where
  staging : StagingPasses engine c
  dimensions : DimensionsPass engine c
  order : FctOrderPasses engine c f
  orderItem : FctOrderItemPasses c f
  orderPayment : FctOrderPaymentPasses engine c f
  subscriptionPayment : FctSubscriptionPaymentPasses engine c f

instance (c : Catalog) (f : Facts) : Decidable (Passes engine c f) :=
  decidable_of_iff (_ ∧ _ ∧ _ ∧ _ ∧ _ ∧ _)
    ⟨fun ⟨h₁, h₂, h₃, h₄, h₅, h₆⟩ => ⟨h₁, h₂, h₃, h₄, h₅, h₆⟩,
    fun h => ⟨h.staging, h.dimensions, h.order, h.orderItem, h.orderPayment,
      h.subscriptionPayment⟩⟩

/-- The build of a catalog succeeds: its tests pass on what it computes. -/
def Mart.Succeeds (full : Bool) (c : Catalog) (w : Mart) : Prop :=
  ∀ f ∈ (w.build engine full c).facts, Passes engine c f

instance (full : Bool) (c : Catalog) (w : Mart) : Decidable (w.Succeeds engine full c) :=
  inferInstanceAs (Decidable (∀ f ∈ (w.build engine full c).facts, Passes engine c f))

/-! ## What a full refresh passes by itself -/

variable {engine}

theorem mem_dimVersions {ρ : Type} {axis : Axis (Landed ρ) String Timestamp}
    {observations : String → List (Landed ρ)} {ids : List String} {v : DimVersion ρ} :
    v ∈ dimVersions engine axis observations ids ↔ v.id ∈ ids ∧
      v.window ∈ windows axis (observations v.id) ∧
      v.key = versionKey engine v.id (axis.info v.window) := by
  unfold dimVersions
  simp only [List.mem_flatMap, mem_distinct, List.mem_map]
  constructor
  · rintro ⟨id, hid, w, hw, rfl⟩
    exact ⟨hid, hw, rfl⟩
  · rintro ⟨hid, hw, hkey⟩
    exact ⟨v.id, hid, v.window, hw, by rw [← hkey]⟩

/-- The keys an as-of join finds are those of the covering versions in the table. -/
theorem mem_keysAsOf {ρ : Type} {axis : Axis (Landed ρ) String Timestamp} {key : ρ → String}
    {time : ρ → Timestamp} {obs : List (Landed ρ)} {id : String} {t : Timestamp} {k : String} :
    k ∈ (asOf axis (history key time obs id) t).map (fun w => versionKey engine id (axis.info w)) ↔
      ∃ v ∈ dimVersions engine axis (history key time obs) (obs.map fun r => key r.row),
        v.id = id ∧ v.window.Covers t ∧ v.key = k := by
  unfold asOf
  simp only [List.mem_map, List.mem_filter, decide_eq_true_eq, mem_dimVersions]
  constructor
  · rintro ⟨w, ⟨hw, hcovers⟩, rfl⟩
    refine ⟨⟨id, versionKey engine id (axis.info w), w⟩, ⟨?_, hw, rfl⟩, rfl, hcovers, rfl⟩
    -- an entity with a version has an observation
    by_contra hnone
    have hnil : history key time obs id = [] := by
      refine List.eq_nil_iff_forall_not_mem.2 fun r hr => ?_
      unfold history at hr
      rw [List.mem_insertionSort, List.mem_filter, decide_eq_true_eq] at hr
      exact hnone ⟨r, hr⟩
    rw [hnil] at hw
    cases hw
  · rintro ⟨v, ⟨-, hw, hkey⟩, rfl, hcovers, rfl⟩
    exact ⟨v.window, ⟨hw, hcovers⟩, hkey.symm⟩

theorem customerKeysAsOf_iff {c : Catalog} {id k : String} {t : Timestamp} :
    k ∈ customerKeysAsOf engine c id t ↔
      ∃ v ∈ dimCustomer engine c, v.id = id ∧ v.window.Covers t ∧ v.key = k := mem_keysAsOf

theorem subscriptionKeysAsOf_iff {c : Catalog} {id k : String} {t : Timestamp} :
    k ∈ subscriptionKeysAsOf engine c id t ↔
      ∃ v ∈ dimSubscription engine c, v.id = id ∧ v.window.Covers t ∧ v.key = k := mem_keysAsOf

/-- An enriched order has the key of a version, or none. -/
theorem customerKey_of_enrichOrder {c : Catalog} {o : StgOrder} {e : OrderEnriched}
    (he : e ∈ enrichOrder engine c o) :
    ∀ k ∈ e.customerKey, k ∈ (dimCustomer engine c).map DimVersion.key := by
  obtain ⟨key, hkey, rfl⟩ := List.mem_map.1 he
  rintro k ⟨⟩
  unfold leftJoin at hkey
  split at hkey
  · cases List.mem_singleton.1 hkey
  · obtain ⟨k', hk', hk⟩ := List.mem_map.1 hkey
    obtain rfl : k' = k := Option.some.inj hk
    unfold orderCustomerKeys at hk'
    split at hk'
    · cases hk'
    · obtain ⟨v, hv, -, -, hvk⟩ := customerKeysAsOf_iff.1 hk'
      exact List.mem_map.2 ⟨v, hv, hvk⟩

/-- The day of an event lies in `dim_date`. -/
theorem dateKey_mem_dimDate {c : Catalog} {t : Timestamp} (h : dayOf t ∈ eventDays c) :
    dateKey t ∈ dimDate c := by
  unfold dimDate
  cases hmin : (eventDays c).min? with
  | none =>
    rw [List.min?_eq_none_iff.1 hmin] at h
    cases h
  | some first =>
    cases hmax : (eventDays c).max? with
    | none =>
      rw [List.max?_eq_none_iff.1 hmax] at h
      cases h
    | some last =>
      have hfirst := (List.min?_eq_some_iff.1 hmin).2 _ h
      have hlast := (List.max?_eq_some_iff.1 hmax).2 _ h
      have hrange : (dayOf t - first).toNat < (last - first + 1).toNat := by omega
      refine List.mem_map.2 ⟨(dayOf t - first).toNat, List.mem_range.2 hrange, ?_⟩
      have hday : first + ((dayOf t - first).toNat : Int) = dayOf t := by omega
      have hsame : dayOf (dayOf t * microsPerDay) = dayOf t :=
        Int.mul_ediv_cancel _ (by decide)
      rw [hday]
      unfold dateKey
      rw [hsame]

/-- Of a full refresh, every customer key is in `dim_customer` and every date in `dim_date`:
these tests can fail on the rows an incremental build keeps. -/
theorem fctOrder_related (c : Catalog) :
    Relationships ((dimCustomer engine c).map DimVersion.key) FctOrder.customerKey
        (fctOrder engine c) ∧
      Relationships (dimDate c) (fun r => some r.purchaseDateKey) (fctOrder engine c) := by
  constructor
  · intro r hr
    obtain ⟨o, -, hr⟩ := List.mem_flatMap.1 hr
    obtain ⟨e, he, rfl⟩ := List.mem_map.1 hr
    exact customerKey_of_enrichOrder he
  · rintro r hr _ ⟨⟩
    obtain ⟨o, ho, hr⟩ := List.mem_flatMap.1 hr
    obtain ⟨e, he, rfl⟩ := List.mem_map.1 hr
    obtain ⟨key, -, rfl⟩ := List.mem_map.1 he
    exact dateKey_mem_dimDate (List.mem_append_left _ (List.mem_map_of_mem ho))

theorem fctSubscriptionPayment_related (c : Catalog) :
    Relationships ((dimSubscription engine c).map DimVersion.key)
        (fun r => some r.subscriptionKey) (fctSubscriptionPayment engine c) ∧
      Relationships ((dimCustomer engine c).map DimVersion.key)
        (fun r => some r.customerKey) (fctSubscriptionPayment engine c) ∧
      Relationships (dimDate c) (fun r => some r.paymentDateKey)
        (fctSubscriptionPayment engine c) := by
  -- every row comes of one payment, one version of its subscription and one of its customer
  have hrow : ∀ r ∈ fctSubscriptionPayment engine c, ∃ p ∈ stgSubscriptionPayments c,
      ∃ s ∈ subscriptionKeysAsOf engine c p.payment.subscriptionId p.payment.paymentAt,
      ∃ k ∈ customerKeysAsOf engine c p.customerId p.payment.paymentAt,
        r = fctSubscriptionPaymentRow p.payment s k := by
    intro r hr
    obtain ⟨p, hp, hr⟩ := List.mem_flatMap.1 hr
    obtain ⟨s, hs, hr⟩ := List.mem_flatMap.1 hr
    obtain ⟨k, hk, rfl⟩ := List.mem_map.1 hr
    exact ⟨p, hp, s, hs, k, hk, rfl⟩
  refine ⟨?_, ?_, ?_⟩
  -- the key of a version that covers the payment is the key of a row of the dimension
  · rintro r hr _ ⟨⟩
    obtain ⟨p, -, s, hs, k, -, rfl⟩ := hrow r hr
    obtain ⟨v, hv, -, -, hvk⟩ := subscriptionKeysAsOf_iff.1 hs
    exact List.mem_map.2 ⟨v, hv, hvk⟩
  · rintro r hr _ ⟨⟩
    obtain ⟨p, -, s, -, k, hk, rfl⟩ := hrow r hr
    obtain ⟨v, hv, -, -, hvk⟩ := customerKeysAsOf_iff.1 hk
    exact List.mem_map.2 ⟨v, hv, hvk⟩
  · rintro r hr _ ⟨⟩
    obtain ⟨p, hp, s, -, k, -, rfl⟩ := hrow r hr
    exact dateKey_mem_dimDate (List.mem_append_right _ (List.mem_map_of_mem hp))

/-- `int_affected_subscription_payment_keys_resolve` passes in every build. -/
theorem intAffectedSubscriptionPaymentKeys_resolve (c : Catalog) (bound : String) :
    Relationships ((stgSubscriptionPayments c).map fun p => p.payment.paymentId)
      (fun k => some k.1) (intAffectedSubscriptionPaymentKeys engine c bound) := by
  rintro k hk _ ⟨⟩
  obtain ⟨p, hp, rfl⟩ := List.mem_map.1 hk
  refine List.mem_map.2 ⟨p, ?_, rfl⟩
  simp only [affectedPayments, affectedFromSubscriptionVersions, affectedFromCustomerVersions,
    List.mem_append, List.mem_filter, or_assoc] at hp
  rcases hp with hp | hp | hp
  · exact hp.1
  · exact hp.1
  · exact hp.1

end Models

end CommercePlatform.Warehouse
