import CommercePlatform.Common.Raised
import CommercePlatform.Control.Cursor
import CommercePlatform.Lib.Table
import CommercePlatform.Lib.Versioned
/-!
# Order and payment transitions

`src/generator/orders/transitions.py`. A transition is planned from a reading of a row
and persisted later, in another transaction: the plan carries the status and the
`updated_at` it was planned from, and `persist_*_transition` first asks whether the row
is already what the plan makes of it, then whether it is still what the plan was made
from.

Between the two, anything may have happened to the row: another plan, the same plan
twice, a plan made from an older reading. The statement about these functions is
therefore about lists of plans. For every row and every list of plans, each made from
some version the row has had: of the plans made from one version one at most is applied,
an applied plan moves `updated_at` up, the last applied plan is skipped when it comes
again, and a plan made from another version than the current one leaves the row as it
is.

Orders and payments differ in their columns, their statuses and the shape of the code,
but the argument is one. So both are instances of one description (`MutableRow`), and
what one call does to the row it locks is one structure (`Save`): the row it writes, or
that it wrote nothing. From there on the file is about `Save`:

- `get_persisted` and `get_persistAll` reduce a call, and a list of calls, to the row
  they address: the other rows do not matter, and this row does not change under calls
  for others;
- `change` reads a `Save` as a change of `Lib.Versioned`, where a row has a stamp (its
  `updated_at`) that strictly grows. The versions of the row are then the versions of
  that library, and two versions with one stamp are one;
- `not_saved_of_stale` is the heart: a plan made from another version than the current
  one is not applied, since it would make the two versions rows with one stamp;
- `compareAndSet` assembles the four parts.

The second half proves `saveOrder_spec` and `savePayment_spec`, that is, that the two
functions of the source are such a `Save`. The checks of the plan and of the persisting
call are partly the same ones made twice; a plan that passed them at planning passes
them again on the version it was planned from.

A `datetime` is kept with its offset. The transition functions compare values read from
a `TIMESTAMPTZ` column with values of the caller, and an aware value equals the stored
one where the instants agree, while a naive one equals none.
-/

namespace CommercePlatform.Generator

open CommercePlatform.Lib

/-- The order statuses that `orders_status_check` admits. -/
inductive OrderStatus where
  | created | approved | processing | invoiced | shipped | delivered | canceled | unavailable
deriving DecidableEq, Repr

def OrderStatus.text : OrderStatus → String
  | created => "created"
  | approved => "approved"
  | processing => "processing"
  | invoiced => "invoiced"
  | shipped => "shipped"
  | delivered => "delivered"
  | canceled => "canceled"
  | unavailable => "unavailable"

/-- The payment statuses that `order_payments_status_check` admits. -/
inductive PaymentStatus where
  | pending | completed | failed | refunded
deriving DecidableEq, Repr

def PaymentStatus.text : PaymentStatus → String
  | pending => "pending"
  | completed => "completed"
  | failed => "failed"
  | refunded => "refunded"

/-- `ORDER_TRANSITIONS`: what a status may become; a status it does not list is `none`. -/
def orderTransitions : OrderStatus → Option (List OrderStatus)
  | .created => some [.approved, .canceled]
  | .approved => some [.shipped, .canceled]
  | .shipped => some [.delivered]
  | .delivered => some []
  | .canceled => some []
  | .processing | .invoiced | .unavailable => none

/-- `PAYMENT_TRANSITIONS`. -/
def paymentTransitions : PaymentStatus → Option (List PaymentStatus)
  | .pending => some [.completed, .failed]
  | .completed => some [.refunded]
  | .failed => some []
  | .refunded => some []

/-- A Python `datetime`: the wall clock reading and the offset of its time zone from UTC, `none`
for a naive value. `_assert_business_event_time` asks for offset zero. -/
structure Datetime where
  wall : Timestamp
  utcoffset : Option Int
deriving DecidableEq, Repr

/-- The instant a `TIMESTAMPTZ` column stores; a naive value is read in UTC, the time zone
of the session. -/
def Datetime.instant (d : Datetime) : Timestamp := d.wall - d.utcoffset.getD 0

/-- `stored == d` for an aware `stored`: a naive value equals none. -/
def Datetime.equals (d : Datetime) (stored : Timestamp) : Prop :=
  d.utcoffset.isSome ∧ stored = d.instant

instance (d : Datetime) (stored : Timestamp) : Decidable (d.equals stored) :=
  inferInstanceAs (Decidable (_ ∧ _))

/-- `OrderState`: what a transition reads of an `orders` row. -/
structure OrderState where
  orderId : String
  orderStatus : OrderStatus
  orderApprovedAt : Option Timestamp
  orderDeliveredCarrierDate : Option Timestamp
  orderDeliveredCustomerDate : Option Timestamp
  updatedAt : Timestamp
deriving DecidableEq, Repr

/-- `PaymentState`: what a transition reads of an `order_payments` row. -/
structure PaymentState where
  orderId : String
  paymentSequential : Int
  paymentStatus : PaymentStatus
  paymentInitiatedAt : Option Timestamp
  paymentCompletedAt : Option Timestamp
  paymentFailedAt : Option Timestamp
  paymentRefundedAt : Option Timestamp
  updatedAt : Timestamp
deriving DecidableEq, Repr

structure OrderTransition where
  orderId : String
  expectedStatus : OrderStatus
  expectedUpdatedAt : Timestamp
  nextStatus : OrderStatus
  mutationTime : Datetime
  businessEventTime : Option Datetime
deriving DecidableEq, Repr

structure PaymentTransition where
  orderId : String
  paymentSequential : Int
  expectedStatus : PaymentStatus
  expectedUpdatedAt : Timestamp
  nextStatus : PaymentStatus
  mutationTime : Datetime
  businessEventTime : Option Datetime
deriving DecidableEq, Repr

structure TransitionResult where
  updated : Nat
  skipped : Nat
deriving DecidableEq, Repr

/-- `_assert_allowed_transition`, over either table of transitions: a status the table does not
list allows nothing, and the message is the same. -/
def assertAllowedTransition {S : Type} [DecidableEq S] (transitions : S → Option (List S))
    (text : S → String) (currentStatus nextStatus : S) (entityName : String) :
    Except Raised Unit :=
  require (nextStatus ∈ (transitions currentStatus).getD [])
    ⟨.valueError, "Unsupported " ++ entityName ++ " transition: " ++ text currentStatus ++ " -> "
      ++ text nextStatus⟩

/-- `_assert_increasing_mutation_time`. -/
def assertIncreasingMutationTime (currentUpdatedAt : Timestamp) (mutationTime : Datetime) :
    Except Raised Unit := do
  require (mutationTime.utcoffset = some 0)
    ⟨.valueError, "mutation_time must be normalized to UTC"⟩
  require (currentUpdatedAt < mutationTime.instant)
    ⟨.valueError, "mutation_time must be greater than the current updated_at"⟩

/-- `_assert_business_event_time`. -/
def assertBusinessEventTime (businessEventTime mutationTime : Datetime) : Except Raised Unit := do
  require (businessEventTime.utcoffset = some 0)
    ⟨.valueError, "business_event_time must be normalized to UTC"⟩
  require (businessEventTime.instant ≤ mutationTime.instant)
    ⟨.valueError, "business_event_time must not be later than mutation_time"⟩

/-- `if value is not None: check(value)`. -/
def whenGiven {α : Type} (value : Option α) (check : α → Except Raised Unit) :
    Except Raised Unit :=
  match value with
  | none => .ok ()
  | some a => check a

theorem whenGiven_eq_ok {α : Type} {value : Option α} {check : α → Except Raised Unit}
    {u : Unit} : whenGiven value check = .ok u ↔ ∀ a ∈ value, check a = .ok () := by
  cases value with
  | none => simp [whenGiven]
  | some a => simp [whenGiven]

/-- `plan_order_transition`. -/
def planOrderTransition (current : OrderState) (nextStatus : OrderStatus)
    (mutationTime : Datetime) (businessEventTime : Option Datetime) :
    Except Raised OrderTransition := do
  assertAllowedTransition orderTransitions OrderStatus.text current.orderStatus nextStatus "Order"
  assertIncreasingMutationTime current.updatedAt mutationTime
  whenGiven businessEventTime fun eventTime => do
    assertBusinessEventTime eventTime mutationTime
    require (nextStatus ∈ [OrderStatus.approved, .shipped, .delivered]) ⟨.valueError,
      "business_event_time is only supported for Order event status transitions"⟩
  .ok ⟨current.orderId, current.orderStatus, current.updatedAt, nextStatus, mutationTime,
    businessEventTime⟩

/-- `plan_payment_transition`. -/
def planPaymentTransition (current : PaymentState) (nextStatus : PaymentStatus)
    (mutationTime : Datetime) (businessEventTime : Option Datetime) :
    Except Raised PaymentTransition := do
  assertAllowedTransition paymentTransitions PaymentStatus.text current.paymentStatus nextStatus
    "Payment"
  assertIncreasingMutationTime current.updatedAt mutationTime
  whenGiven businessEventTime fun eventTime => do
    assertBusinessEventTime eventTime mutationTime
    require (nextStatus ∈ [PaymentStatus.completed, .failed, .refunded]) ⟨.valueError,
      "business_event_time is only supported for Payment event status transitions"⟩
  .ok ⟨current.orderId, current.paymentSequential, current.paymentStatus, current.updatedAt,
    nextStatus, mutationTime, businessEventTime⟩

/-- The Source tables, as far as transitions read and write them. -/
abbrev OrderTable := Table OrderState String OrderState.orderId
abbrev PaymentTable :=
  Table PaymentState (String × Int) fun p => (p.orderId, p.paymentSequential)

/-- `_locked_order_state`. -/
def lockedOrderState (orders : OrderTable) (orderId : String) : Except Raised OrderState :=
  match orders.get orderId with
  | none => .error ⟨.valueError, "Order not found: " ++ orderId⟩
  | some row => .ok row

/-- `_locked_payment_state`. -/
def lockedPaymentState (payments : PaymentTable) (orderId : String) (paymentSequential : Int) :
    Except Raised PaymentState :=
  match payments.get (orderId, paymentSequential) with
  | none => .error ⟨.valueError,
      "Payment not found: " ++ orderId ++ "/" ++ toString paymentSequential⟩
  | some row => .ok row

/-- `_order_state_after`. -/
def orderStateAfter (current : OrderState) (nextStatus : OrderStatus) (mutationTime : Datetime)
    (businessEventTime : Option Datetime) : Except Raised OrderState := do
  assertAllowedTransition orderTransitions OrderStatus.text current.orderStatus nextStatus "Order"
  assertIncreasingMutationTime current.updatedAt mutationTime
  whenGiven businessEventTime fun eventTime => assertBusinessEventTime eventTime mutationTime
  let eventTime := (businessEventTime.getD mutationTime).instant
  match nextStatus with
  | .approved => .ok { current with
      orderStatus := nextStatus, orderApprovedAt := some eventTime,
      updatedAt := mutationTime.instant }
  | .shipped => .ok { current with
      orderStatus := nextStatus, orderDeliveredCarrierDate := some eventTime,
      updatedAt := mutationTime.instant }
  | .delivered => .ok { current with
      orderStatus := nextStatus, orderDeliveredCustomerDate := some eventTime,
      updatedAt := mutationTime.instant }
  | _ => .ok { current with orderStatus := nextStatus, updatedAt := mutationTime.instant }

/-- The event time an order row records for a status; `none` where no column does, which is
`dict.get` on the dictionary of `_is_idempotent_order_transition`. -/
def orderEventAt (current : OrderState) : OrderStatus → Option (Option Timestamp)
  | .approved => some current.orderApprovedAt
  | .shipped => some current.orderDeliveredCarrierDate
  | .delivered => some current.orderDeliveredCustomerDate
  | _ => none

/-- `column != expected` for a column that may be null. -/
def Recorded (column : Option Timestamp) (expected : Datetime) : Prop :=
  ∃ t ∈ column, expected.equals t

instance (column : Option Timestamp) (expected : Datetime) : Decidable (Recorded column expected) :=
  inferInstanceAs (Decidable (∃ t ∈ column, expected.equals t))

/-- `_is_idempotent_order_transition`. -/
def isIdempotentOrderTransition (current : OrderState) (transition : OrderTransition) :
    Except Raised Bool :=
  if current.orderStatus ≠ transition.nextStatus ∨
      ¬ transition.mutationTime.equals current.updatedAt then .ok false
  else
    let expectedEventTime := transition.businessEventTime.getD transition.mutationTime
    match orderEventAt current transition.nextStatus with
    | none => .ok true
    | some column =>
      if Recorded column expectedEventTime then .ok true
      else .error ⟨.valueError, "Order has different values at the same updated_at cursor"⟩

/-- `_assert_expected_order_version`. -/
def assertExpectedOrderVersion (current : OrderState) (transition : OrderTransition) :
    Except Raised Unit :=
  require (current.orderStatus = transition.expectedStatus ∧
      current.updatedAt = transition.expectedUpdatedAt)
    ⟨.valueError, "Order changed after transition planning"⟩

/-- `_assert_expected_payment_version`. -/
def assertExpectedPaymentVersion (current : PaymentState) (transition : PaymentTransition) :
    Except Raised Unit :=
  require (current.paymentStatus = transition.expectedStatus ∧
      current.updatedAt = transition.expectedUpdatedAt)
    ⟨.valueError, "Payment changed after transition planning"⟩

/-- `UPDATE orders SET … WHERE order_id = desired.order_id`. -/
def updateOrder (orders : OrderTable) (desired : OrderState) : OrderTable :=
  orders.modify desired.orderId
    (fun row => { row with
      orderStatus := desired.orderStatus
      orderApprovedAt := desired.orderApprovedAt
      orderDeliveredCarrierDate := desired.orderDeliveredCarrierDate
      orderDeliveredCustomerDate := desired.orderDeliveredCustomerDate
      updatedAt := desired.updatedAt })
    fun _ => rfl

/-- `UPDATE order_payments SET … WHERE order_id = … AND payment_sequential = …`. -/
def updatePayment (payments : PaymentTable) (desired : PaymentState) : PaymentTable :=
  payments.modify (desired.orderId, desired.paymentSequential)
    (fun row => { row with
      paymentStatus := desired.paymentStatus
      paymentCompletedAt := desired.paymentCompletedAt
      paymentFailedAt := desired.paymentFailedAt
      paymentRefundedAt := desired.paymentRefundedAt
      updatedAt := desired.updatedAt })
    fun _ => rfl

/-- `persist_order_transition`, in its order: lock, idempotence, expected version, the row after,
the `UPDATE`. -/
def persistOrderTransition (orders : OrderTable) (transition : OrderTransition) :
    Except Raised (TransitionResult × OrderTable) := do
  let current ← lockedOrderState orders transition.orderId
  if ← isIdempotentOrderTransition current transition then
    return (⟨0, 1⟩, orders)
  assertExpectedOrderVersion current transition
  let desired ← orderStateAfter current transition.nextStatus transition.mutationTime
    transition.businessEventTime
  return (⟨1, 0⟩, updateOrder orders desired)

/-- `_payment_event_at`; the dictionary has no entry for `pending`. -/
def paymentEventAt (current : PaymentState) : PaymentStatus → Except Raised (Option Timestamp)
  | .completed => .ok current.paymentCompletedAt
  | .failed => .ok current.paymentFailedAt
  | .refunded => .ok current.paymentRefundedAt
  | .pending => .error ⟨.otherException, "'pending'"⟩

/-- The row a payment transition makes of `current`. -/
def paymentStateAfter (current : PaymentState) (transition : PaymentTransition) :
    Except Raised PaymentState := do
  assertAllowedTransition paymentTransitions PaymentStatus.text current.paymentStatus
    transition.nextStatus "Payment"
  assertIncreasingMutationTime current.updatedAt transition.mutationTime
  let eventAt := (transition.businessEventTime.getD transition.mutationTime).instant
  let desired := match transition.nextStatus with
    | .completed => { current with paymentCompletedAt := some eventAt }
    | .failed => { current with paymentFailedAt := some eventAt }
    | _ => { current with paymentRefundedAt := some eventAt }
  return { desired with
    paymentStatus := transition.nextStatus, updatedAt := transition.mutationTime.instant }

/-- `persist_payment_transition`. The check of the transition and of the mutation time stand in
the body here, where the order goes through `_order_state_after`. -/
def persistPaymentTransition (payments : PaymentTable) (transition : PaymentTransition) :
    Except Raised (TransitionResult × PaymentTable) := do
  let current ← lockedPaymentState payments transition.orderId transition.paymentSequential
  if current.paymentStatus = transition.nextStatus ∧
      transition.mutationTime.equals current.updatedAt then
    let expectedEventAt := transition.businessEventTime.getD transition.mutationTime
    let eventAt ← paymentEventAt current transition.nextStatus
    require (Recorded eventAt expectedEventAt)
      ⟨.valueError, "Payment has different values at the same updated_at cursor"⟩
    return (⟨0, 1⟩, payments)
  assertExpectedPaymentVersion current transition
  let desired ← paymentStateAfter current transition
  return (⟨1, 0⟩, updatePayment payments desired)

/-- A kind of row that transitions change: what its plans are, how a plan is persisted, and what
the run facts below speak of. The two instances are `orderRow` and `paymentRow`. -/
structure MutableRow where
  Row : Type
  Key : Type
  Status : Type
  Plan : Type
  [decidableEqKey : DecidableEq Key]
  key : Row → Key
  status : Row → Status
  updatedAt : Row → Timestamp
  /-- The column in which the row records the event time of a status, if it has one. -/
  eventAt : Row → Status → Option (Option Timestamp)
  /-- The plan came from a reading of the row. -/
  PlannedFrom : Row → Plan → Prop
  /-- The row the plan makes of the row it is applied to. -/
  produced : Row → Plan → Except Raised Row
  persist : Table Row Key key → Plan → Except Raised (TransitionResult × Table Row Key key)

attribute [instance] MutableRow.decidableEqKey

/-- Orders and their transitions. -/
def orderRow : MutableRow where
  Row := OrderState
  Key := String
  Status := OrderStatus
  Plan := OrderTransition
  key := OrderState.orderId
  status := OrderState.orderStatus
  updatedAt := OrderState.updatedAt
  eventAt := orderEventAt
  PlannedFrom current transition := ∃ nextStatus mutationTime businessEventTime,
    planOrderTransition current nextStatus mutationTime businessEventTime = .ok transition
  produced current transition := orderStateAfter current transition.nextStatus
    transition.mutationTime transition.businessEventTime
  persist := persistOrderTransition

/-- Payments and their transitions. -/
def paymentRow : MutableRow where
  Row := PaymentState
  Key := String × Int
  Status := PaymentStatus
  Plan := PaymentTransition
  key p := (p.orderId, p.paymentSequential)
  status := PaymentState.paymentStatus
  updatedAt := PaymentState.updatedAt
  eventAt current status := (paymentEventAt current status).toOption
  PlannedFrom current transition := ∃ nextStatus mutationTime businessEventTime,
    planPaymentTransition current nextStatus mutationTime businessEventTime = .ok transition
  produced := paymentStateAfter
  persist := persistPaymentTransition

namespace MutableRow

variable (k : MutableRow)

/-- The table once the plan was persisted in a transaction of its own: a call that raises is
rolled back, so the table is the one before it. -/
def persisted (rows : Table k.Row k.Key k.key) (plan : k.Plan) : Table k.Row k.Key k.key :=
  match k.persist rows plan with
  | .ok (_, rows') => rows'
  | .error _ => rows

/-- The table once the plans were persisted in order. -/
def persistAll (rows : Table k.Row k.Key k.key) (plans : List k.Plan) :
    Table k.Row k.Key k.key :=
  plans.foldl k.persisted rows

/-- `v` is the row at `id` at some point of the history. -/
def IsVersion (rows : Table k.Row k.Key k.key) (id : k.Key) (plans : List k.Plan) (v : k.Row) :
    Prop :=
  ∃ before rest, plans = before ++ rest ∧ (k.persistAll rows before).get id = some v

/-- Persisting the plan updates its row. -/
def Applied (rows : Table k.Row k.Key k.key) (plan : k.Plan) : Prop :=
  ∃ rows', k.persist rows plan = .ok (⟨1, 0⟩, rows')

/-- The row already has the status, the `updated_at` and the event time of `desired`. -/
def Agrees (row desired : k.Row) : Prop :=
  k.status row = k.status desired ∧ k.updatedAt row = k.updatedAt desired ∧
    k.eventAt row (k.status desired) = k.eventAt desired (k.status desired)

/-- What compare-and-set promises of the row at `id` while `plans` are persisted in order: who is
applied, what the others leave, and that a repeated plan is skipped. -/
structure CompareAndSet (rows : Table k.Row k.Key k.key) (id : k.Key) (plans : List k.Plan) :
    Prop where
  /-- Of the plans made from one version, one at most is applied. -/
  applied_once : ∀ before plan rest before' plan' rest' v,
    plans = before ++ plan :: rest → plans = before' ++ plan' :: rest' →
    k.PlannedFrom v plan → k.PlannedFrom v plan' →
    k.Applied (k.persistAll rows before) plan → k.Applied (k.persistAll rows before') plan' →
    before = before'
  /-- An applied plan moves `updated_at` up. -/
  increases : ∀ before plan rest, plans = before ++ plan :: rest →
    k.Applied (k.persistAll rows before) plan →
    ∃ row row', (k.persistAll rows before).get id = some row ∧
      (k.persistAll rows (before ++ [plan])).get id = some row' ∧
      k.updatedAt row < k.updatedAt row'
  /-- The last applied plan is skipped when it comes again. -/
  repeated : ∀ before plan between rest, plans = before ++ plan :: (between ++ rest) →
    k.Applied (k.persistAll rows before) plan →
    (∀ before' plan' rest', between = before' ++ plan' :: rest' →
      ¬ k.Applied (k.persistAll rows (before ++ plan :: before')) plan') →
    k.persist (k.persistAll rows (before ++ plan :: between)) plan =
      .ok (⟨0, 1⟩, k.persistAll rows (before ++ plan :: between))
  /-- A plan made from another version than the current one raises, or is skipped because the
  row is already what the plan makes of that version; the row stays as it is. -/
  stale : ∀ before plan rest v row, plans = before ++ plan :: rest →
    k.IsVersion rows id plans v → k.PlannedFrom v plan →
    (k.persistAll rows before).get id = some row → v ≠ row →
    (k.persistAll rows (before ++ [plan])).get id = some row ∧
      ((∃ e, k.persist (k.persistAll rows before) plan = .error e) ∨
        k.persist (k.persistAll rows before) plan = .ok (⟨0, 1⟩, k.persistAll rows before) ∧
          ∃ desired, k.produced v plan = .ok desired ∧ k.Agrees row desired)

/-- What one call does, said of the row alone: `save row plan` is the row it writes, `none` where
it skips. The fields are all the run facts need of a function of the source. -/
structure Save (address : k.Plan → k.Key) (save : k.Row → k.Plan → Except Raised (Option k.Row)) :
    Prop where
  address_of_planned : ∀ {v plan}, k.PlannedFrom v plan → address plan = k.key v
  raises : ∀ {rows : Table k.Row k.Key k.key} {plan row e}, rows.get (address plan) = some row →
    save row plan = .error e → k.persist rows plan = .error e
  skips : ∀ {rows : Table k.Row k.Key k.key} {plan row}, rows.get (address plan) = some row →
    save row plan = .ok none → k.persist rows plan = .ok (⟨0, 1⟩, rows)
  writes : ∀ {rows : Table k.Row k.Key k.key} {plan row row'},
    rows.get (address plan) = some row → save row plan = .ok (some row') →
    ∃ rows', k.persist rows plan = .ok (⟨1, 0⟩, rows') ∧
      rows'.get (address plan) = some row'
  advances : ∀ {row plan row'}, save row plan = .ok (some row') →
    k.updatedAt row < k.updatedAt row'
  expects : ∀ {v row plan row'}, k.PlannedFrom v plan → save row plan = .ok (some row') →
    k.updatedAt row = k.updatedAt v
  agrees : ∀ {v row plan}, k.PlannedFrom v plan → save row plan = .ok none →
    ∃ desired, k.produced v plan = .ok desired ∧ k.Agrees row desired
  again : ∀ {v row plan row'}, k.PlannedFrom v plan → save row plan = .ok (some row') →
    save row' plan = .ok none

variable {k} {address : k.Plan → k.Key} {save : k.Row → k.Plan → Except Raised (Option k.Row)}
  {rows : Table k.Row k.Key k.key} {id : k.Key} {row row' : k.Row} {plan : k.Plan}
  {plans : List k.Plan}

/-- The changes of the row as `Lib.Versioned` has them. -/
def change (save : k.Row → k.Plan → Except Raised (Option k.Row)) (row : k.Row) (plan : k.Plan) :
    Option k.Row :=
  match save row plan with
  | .ok (some row') => some row'
  | _ => none

theorem change_eq_some : change save row plan = some row' ↔ save row plan = .ok (some row') := by
  unfold change
  split <;> simp_all

theorem change_eq_none (h : ∀ row', save row plan ≠ .ok (some row')) :
    change save row plan = none := by
  unfold change
  split
  next row' hsave => exact absurd hsave (h row')
  next => rfl

theorem Save.advances' (hsave : k.Save address save) :
    Versioned.Advances (change save) k.updatedAt :=
  fun _ _ _ h => hsave.advances (change_eq_some.1 h)

theorem Save.applied_iff (hsave : k.Save address save) (hrow : rows.get (address plan) = some row) :
    k.Applied rows plan ↔ ∃ row', change save row plan = some row' := by
  constructor
  · rintro ⟨rows', happlied⟩
    cases h : save row plan with
    | error e => exact absurd (happlied.symm.trans (hsave.raises hrow h)) (by simp)
    | ok written =>
      cases written with
      | none => exact absurd (happlied.symm.trans (hsave.skips hrow h)) (by simp)
      | some row' => exact ⟨row', change_eq_some.2 h⟩
  · rintro ⟨row', h⟩
    obtain ⟨rows', hpersist, -⟩ := hsave.writes hrow (change_eq_some.1 h)
    exact ⟨rows', hpersist⟩

/-- One call, seen at the row it addresses. -/
theorem Save.get_persisted (hsave : k.Save address save)
    (hrow : rows.get (address plan) = some row) :
    (k.persisted rows plan).get (address plan) =
      some (Versioned.next (change save) row plan) := by
  cases h : save row plan with
  | error e =>
    have hnone : change save row plan = none := change_eq_none fun row' => by simp [h]
    simp only [persisted, hsave.raises hrow h, Versioned.next_of_none hnone, hrow]
  | ok written =>
    cases written with
    | none =>
      have hnone : change save row plan = none := change_eq_none fun row' => by simp [h]
      simp only [persisted, hsave.skips hrow h, Versioned.next_of_none hnone, hrow]
    | some row' =>
      obtain ⟨rows', hpersist, hget⟩ := hsave.writes hrow h
      simp only [persisted, hpersist, Versioned.next_of_some (change_eq_some.2 h), hget]

/-- A list of calls, seen at the row they address: by induction on the list, a call for another
row leaves this one as it is. -/
theorem Save.get_persistAll (hsave : k.Save address save) (hrow : rows.get id = some row)
    (haddress : ∀ plan ∈ plans, address plan = id) :
    (k.persistAll rows plans).get id = some (Versioned.after (change save) row plans) := by
  induction plans generalizing rows row with
  | nil => exact hrow
  | cons plan plans ih =>
    have hid : address plan = id := haddress plan (by simp)
    have hnext : (k.persisted rows plan).get (address plan) =
        some (Versioned.next (change save) row plan) := hsave.get_persisted (hid ▸ hrow)
    rw [hid] at hnext
    exact ih hnext fun p hp => haddress p (by simp [hp])

/-- The rows a history of plans of one row goes through are the versions of that row. -/
theorem Save.isVersion (hsave : k.Save address save) (hrow : rows.get id = some row)
    (haddress : ∀ plan ∈ plans, address plan = id) {v : k.Row}
    (hv : k.IsVersion rows id plans v) : Versioned.IsVersion (change save) row plans v := by
  obtain ⟨before, rest, rfl, hget⟩ := hv
  refine ⟨before, rest, rfl, ?_⟩
  rw [hsave.get_persistAll hrow fun p hp => haddress p (by simp [hp])] at hget
  exact (Option.some.inj hget).symm

theorem persistAll_snoc (before : List k.Plan) :
    k.persistAll rows (before ++ [plan]) = k.persisted (k.persistAll rows before) plan := by
  simp [persistAll]

/-- A plan made from a version of the row at `id` addresses that row. -/
theorem Save.address_eq (hsave : k.Save address save)
    (hplanned : ∀ plan ∈ plans, ∃ v, k.IsVersion rows id plans v ∧ k.PlannedFrom v plan) :
    ∀ plan ∈ plans, address plan = id := by
  intro plan hplan
  obtain ⟨v, ⟨before, rest, -, hget⟩, hfrom⟩ := hplanned plan hplan
  rw [hsave.address_of_planned hfrom]
  exact Table.key_of_get hget

section History

variable {before between rest : List k.Plan}

/-- The row any beginning of the list leads to. -/
theorem Save.get_before (hsave : k.Save address save) (hrow : rows.get id = some row)
    (haddress : ∀ plan ∈ plans, address plan = id) (h : plans = before ++ rest) :
    (k.persistAll rows before).get id = some (Versioned.after (change save) row before) :=
  hsave.get_persistAll hrow fun p hp => haddress p (by simp [h, hp])

/-- An applied plan changes the row the plans before it lead to. -/
theorem Save.change_of_applied (hsave : k.Save address save) (hrow : rows.get id = some row)
    (haddress : ∀ plan ∈ plans, address plan = id) (h : plans = before ++ plan :: rest)
    (happlied : k.Applied (k.persistAll rows before) plan) :
    ∃ row', change save (Versioned.after (change save) row before) plan = some row' := by
  have hid : address plan = id := haddress plan (by simp [h])
  exact (hsave.applied_iff (hid ▸ hsave.get_before hrow haddress h)).1 happlied

/-- While nothing is applied, the row stays the one the last applied plan wrote. -/
theorem Save.after_between (hsave : k.Save address save) (hrow : rows.get id = some row)
    (haddress : ∀ plan ∈ plans, address plan = id)
    (h : plans = before ++ plan :: (between ++ rest))
    (hchange : change save (Versioned.after (change save) row before) plan = some row')
    (hnot : ∀ before' plan' rest', between = before' ++ plan' :: rest' →
      ¬ k.Applied (k.persistAll rows (before ++ plan :: before')) plan') :
    Versioned.after (change save) row (before ++ plan :: between) = row' := by
  induction between using List.reverseRecOn generalizing rest with
  | nil =>
    rw [Versioned.after_append, Versioned.after_cons, Versioned.after_nil,
      Versioned.next_of_some hchange]
  | append_singleton between p ih =>
    have hkept : Versioned.after (change save) row (before ++ plan :: between) = row' := by
      have hplans : plans = before ++ plan :: (between ++ p :: rest) := by simp [h]
      refine ih hplans ?_
      intro before' plan' rest' hbetween
      exact hnot before' plan' (rest' ++ [p]) (by simp [hbetween])
    -- a change by `p` would make it applied, which it is not
    have hnone : change save row' p = none := by
      cases hc : change save row' p with
      | none => rfl
      | some w =>
        have hplans : plans = (before ++ plan :: between) ++ p :: rest := by simp [h]
        have hat := hsave.get_before hrow haddress hplans
        have hp : address p = id := haddress p (by simp [h])
        refine absurd ?_ (hnot between p [] rfl)
        rw [hsave.applied_iff (hp ▸ hat), hkept]
        exact ⟨w, hc⟩
    rw [show before ++ plan :: (between ++ [p]) = (before ++ plan :: between) ++ [p] by simp,
      Versioned.after_append, hkept, Versioned.after_cons, Versioned.after_nil,
      Versioned.next_of_none hnone]

/-- A plan made from another version than the current one is not applied: it would make the
two versions rows with one stamp. -/
theorem Save.not_saved_of_stale (hsave : k.Save address save) (hrow : rows.get id = some row)
    (haddress : ∀ plan ∈ plans, address plan = id) {v current : k.Row}
    (hv : k.IsVersion rows id plans v) (hcurrent : k.IsVersion rows id plans current)
    (hfrom : k.PlannedFrom v plan) (hne : v ≠ current) (w : k.Row) :
    save current plan ≠ .ok (some w) := fun hw =>
  hne (Versioned.eq_of_stamp_eq hsave.advances' (hsave.isVersion hrow haddress hv)
    (hsave.isVersion hrow haddress hcurrent) (hsave.expects hfrom hw).symm)

end History

/-- Compare-and-set for every list of plans, each made from some version of the row. -/
theorem Save.compareAndSet (hsave : k.Save address save) (hrow : rows.get id = some row)
    (hplanned : ∀ plan ∈ plans, ∃ v, k.IsVersion rows id plans v ∧ k.PlannedFrom v plan) :
    k.CompareAndSet rows id plans := by
  have haddress := hsave.address_eq hplanned
  constructor
  -- two applied plans of one version expected one stamp, and stamps grow
  · intro before plan rest before' plan' rest' v h h' hv hv' happ happ'
    obtain ⟨w, hw⟩ := hsave.change_of_applied hrow haddress h happ
    obtain ⟨w', hw'⟩ := hsave.change_of_applied hrow haddress h' happ'
    refine Versioned.applied_once hsave.advances' h h' hw hw' ?_
    rw [hsave.expects hv (change_eq_some.1 hw), hsave.expects hv' (change_eq_some.1 hw')]
  -- the row before an applied plan and the row it writes
  · intro before plan rest h happ
    obtain ⟨w, hw⟩ := hsave.change_of_applied hrow haddress h happ
    refine ⟨_, w, hsave.get_before hrow haddress h, ?_, hsave.advances' _ _ _ hw⟩
    have hplans : plans = (before ++ [plan]) ++ rest := by simp [h]
    rw [hsave.get_before hrow haddress hplans,
      Versioned.after_append, Versioned.after_cons, Versioned.after_nil,
      Versioned.next_of_some hw]
  -- when the plan comes again, the row is still the one it wrote
  · intro before plan between rest h happ hnot
    obtain ⟨w, hw⟩ := hsave.change_of_applied hrow haddress h happ
    have hid : address plan = id := haddress plan (by simp [h])
    have hplans : plans = (before ++ plan :: between) ++ rest := by simp [h]
    have hnow := hsave.get_before hrow haddress hplans
    rw [hsave.after_between hrow haddress h hw hnot] at hnow
    obtain ⟨v, -, hfrom⟩ := hplanned plan (by simp [h])
    exact hsave.skips (hid ▸ hnow) (hsave.again hfrom (change_eq_some.1 hw))
  -- a stale plan is not saved, so it raised or found what it would write
  · intro before plan rest v current h hv hfrom hcurrent hne
    have hid : address plan = id := haddress plan (by simp [h])
    have hat : (k.persistAll rows before).get (address plan) = some current := by
      rw [hid]
      exact hcurrent
    have hnot := hsave.not_saved_of_stale hrow haddress hv ⟨before, plan :: rest, h, hcurrent⟩
      hfrom hne
    have hkept : (k.persistAll rows (before ++ [plan])).get id = some current := by
      rw [persistAll_snoc, ← hid, hsave.get_persisted hat,
        Versioned.next_of_none (change_eq_none hnot)]
    refine ⟨hkept, ?_⟩
    cases hs : save current plan with
    | error e => exact .inl ⟨e, hsave.raises hat hs⟩
    | ok written =>
      cases written with
      | none => exact .inr ⟨hsave.skips hat hs, hsave.agrees hfrom hs⟩
      | some w => exact absurd hs (hnot w)

end MutableRow

section SpecLemmas

theorem assertAllowedTransition_eq_ok {S : Type} [DecidableEq S] {transitions : S → Option (List S)}
    {text : S → String} {currentStatus nextStatus : S} {entityName : String} {u : Unit} :
    assertAllowedTransition transitions text currentStatus nextStatus entityName = .ok u ↔
      nextStatus ∈ (transitions currentStatus).getD [] := by
  rw [assertAllowedTransition, require_eq_ok]

theorem assertIncreasingMutationTime_eq_ok {updatedAt : Timestamp} {mutationTime : Datetime}
    {u : Unit} :
    assertIncreasingMutationTime updatedAt mutationTime = .ok u ↔
      mutationTime.utcoffset = some 0 ∧ updatedAt < mutationTime.instant := by
  simp only [assertIncreasingMutationTime, bind_eq_ok, require_eq_ok, exists_const]

theorem assertBusinessEventTime_eq_ok {eventTime mutationTime : Datetime} {u : Unit} :
    assertBusinessEventTime eventTime mutationTime = .ok u ↔
      eventTime.utcoffset = some 0 ∧ eventTime.instant ≤ mutationTime.instant := by
  simp only [assertBusinessEventTime, bind_eq_ok, require_eq_ok, exists_const]

/-- A value in UTC equals the instant it stores. -/
theorem Datetime.equals_instant {d : Datetime} (h : d.utcoffset = some 0) :
    d.equals d.instant := by
  simp [Datetime.equals, h]

/-- What the checks of a plan let through: the event time, where it is given, is in UTC and not
after the mutation time. The persisting call makes no such check for payments. -/
def EventTimeChecked (businessEventTime : Option Datetime) (mutationTime : Datetime) : Prop :=
  ∀ eventTime ∈ businessEventTime,
    eventTime.utcoffset = some 0 ∧ eventTime.instant ≤ mutationTime.instant

theorem EventTimeChecked.utc {businessEventTime : Option Datetime} {mutationTime : Datetime}
    (h : EventTimeChecked businessEventTime mutationTime)
    (hutc : mutationTime.utcoffset = some 0) :
    (businessEventTime.getD mutationTime).utcoffset = some 0 := by
  cases businessEventTime with
  | none => exact hutc
  | some eventTime => exact (h eventTime rfl).1

/-- What a planned order transition says of the row it was planned from. -/
structure OrderPlanned (v : OrderState) (t : OrderTransition) : Prop where
  orderId : t.orderId = v.orderId
  status : t.expectedStatus = v.orderStatus
  updatedAt : t.expectedUpdatedAt = v.updatedAt
  allowed : t.nextStatus ∈ (orderTransitions v.orderStatus).getD []
  utc : t.mutationTime.utcoffset = some 0
  later : v.updatedAt < t.mutationTime.instant
  event : EventTimeChecked t.businessEventTime t.mutationTime

theorem orderPlanned {v : OrderState} {nextStatus : OrderStatus} {mutationTime : Datetime}
    {businessEventTime : Option Datetime} {t : OrderTransition}
    (h : planOrderTransition v nextStatus mutationTime businessEventTime = .ok t) :
    OrderPlanned v t := by
  obtain ⟨_, hallowed, h⟩ := bind_eq_ok.1 h
  obtain ⟨_, htime, h⟩ := bind_eq_ok.1 h
  rw [assertAllowedTransition_eq_ok] at hallowed
  obtain ⟨hutc, hlater⟩ := assertIncreasingMutationTime_eq_ok.1 htime
  obtain ⟨_, hevent, h⟩ := bind_eq_ok.1 h
  cases h
  refine ⟨rfl, rfl, rfl, hallowed, hutc, hlater, fun eventTime hgiven => ?_⟩
  obtain ⟨_, hchecked, _⟩ := bind_eq_ok.1 (whenGiven_eq_ok.1 hevent eventTime hgiven)
  exact assertBusinessEventTime_eq_ok.1 hchecked

/-- What a planned payment transition says of the row it was planned from. -/
structure PaymentPlanned (v : PaymentState) (t : PaymentTransition) : Prop where
  orderId : t.orderId = v.orderId
  paymentSequential : t.paymentSequential = v.paymentSequential
  status : t.expectedStatus = v.paymentStatus
  updatedAt : t.expectedUpdatedAt = v.updatedAt
  allowed : t.nextStatus ∈ (paymentTransitions v.paymentStatus).getD []
  utc : t.mutationTime.utcoffset = some 0
  later : v.updatedAt < t.mutationTime.instant
  event : EventTimeChecked t.businessEventTime t.mutationTime

theorem paymentPlanned {v : PaymentState} {nextStatus : PaymentStatus} {mutationTime : Datetime}
    {businessEventTime : Option Datetime} {t : PaymentTransition}
    (h : planPaymentTransition v nextStatus mutationTime businessEventTime = .ok t) :
    PaymentPlanned v t := by
  obtain ⟨_, hallowed, h⟩ := bind_eq_ok.1 h
  obtain ⟨_, htime, h⟩ := bind_eq_ok.1 h
  rw [assertAllowedTransition_eq_ok] at hallowed
  obtain ⟨hutc, hlater⟩ := assertIncreasingMutationTime_eq_ok.1 htime
  obtain ⟨_, hevent, h⟩ := bind_eq_ok.1 h
  cases h
  refine ⟨rfl, rfl, rfl, rfl, hallowed, hutc, hlater, fun eventTime hgiven => ?_⟩
  obtain ⟨_, hchecked, _⟩ := bind_eq_ok.1 (whenGiven_eq_ok.1 hevent eventTime hgiven)
  exact assertBusinessEventTime_eq_ok.1 hchecked

/-- No plan makes a payment pending: the status has an event column. -/
theorem PaymentPlanned.next_ne_pending {v : PaymentState} {t : PaymentTransition}
    (h : PaymentPlanned v t) : t.nextStatus ≠ .pending := by
  intro hnext
  have hallowed := h.allowed
  rw [hnext] at hallowed
  cases hs : v.paymentStatus <;> simp [hs, paymentTransitions] at hallowed

/-- What `_order_state_after` returns. -/
structure OrderAfter (current : OrderState) (t : OrderTransition) (desired : OrderState) : Prop where
  orderId : desired.orderId = current.orderId
  status : desired.orderStatus = t.nextStatus
  updatedAt : desired.updatedAt = t.mutationTime.instant
  event : orderEventAt desired t.nextStatus = (orderEventAt current t.nextStatus).map fun _ =>
    some (t.businessEventTime.getD t.mutationTime).instant

theorem orderStateAfter_eq_ok {current : OrderState} {t : OrderTransition} {desired : OrderState}
    (h : orderStateAfter current t.nextStatus t.mutationTime t.businessEventTime = .ok desired) :
    current.updatedAt < t.mutationTime.instant ∧ OrderAfter current t desired := by
  obtain ⟨_, _, h⟩ := bind_eq_ok.1 h
  obtain ⟨_, htime, h⟩ := bind_eq_ok.1 h
  refine ⟨(assertIncreasingMutationTime_eq_ok.1 htime).2, ?_⟩
  obtain ⟨_, _, h⟩ := bind_eq_ok.1 h
  cases hnext : t.nextStatus <;> simp only [hnext] at h <;> cases h <;>
    exact ⟨rfl, hnext.symm, rfl, by rw [hnext]; rfl⟩

/-- The checks of `_order_state_after` pass where those of the plan did. -/
theorem OrderPlanned.orderStateAfter {v : OrderState} {t : OrderTransition}
    (h : OrderPlanned v t) :
    ∃ desired, Generator.orderStateAfter v t.nextStatus t.mutationTime t.businessEventTime =
      .ok desired := by
  have hallowed : assertAllowedTransition orderTransitions OrderStatus.text v.orderStatus
      t.nextStatus "Order" = .ok () := assertAllowedTransition_eq_ok.2 h.allowed
  have htime : assertIncreasingMutationTime v.updatedAt t.mutationTime = .ok () :=
    assertIncreasingMutationTime_eq_ok.2 ⟨h.utc, h.later⟩
  have hevent : whenGiven t.businessEventTime
      (fun eventTime => assertBusinessEventTime eventTime t.mutationTime) = .ok () :=
    whenGiven_eq_ok.2 fun eventTime hgiven =>
      assertBusinessEventTime_eq_ok.2 (h.event eventTime hgiven)
  unfold Generator.orderStateAfter
  rw [hallowed, htime, hevent]
  cases t.nextStatus <;> exact ⟨_, rfl⟩

/-- What a payment transition makes of a row. -/
structure PaymentAfter (current : PaymentState) (t : PaymentTransition) (desired : PaymentState) :
    Prop where
  orderId : desired.orderId = current.orderId
  paymentSequential : desired.paymentSequential = current.paymentSequential
  paymentInitiatedAt : desired.paymentInitiatedAt = current.paymentInitiatedAt
  status : desired.paymentStatus = t.nextStatus
  updatedAt : desired.updatedAt = t.mutationTime.instant
  event : t.nextStatus ≠ .pending →
    paymentEventAt desired t.nextStatus =
      .ok (some (t.businessEventTime.getD t.mutationTime).instant)

theorem paymentStateAfter_eq_ok {current : PaymentState} {t : PaymentTransition}
    {desired : PaymentState} (h : paymentStateAfter current t = .ok desired) :
    current.updatedAt < t.mutationTime.instant ∧ PaymentAfter current t desired := by
  obtain ⟨_, _, h⟩ := bind_eq_ok.1 h
  obtain ⟨_, htime, h⟩ := bind_eq_ok.1 h
  refine ⟨(assertIncreasingMutationTime_eq_ok.1 htime).2, ?_⟩
  cases hnext : t.nextStatus <;> simp only [hnext] at h <;> cases h <;>
    refine ⟨rfl, rfl, rfl, hnext.symm, rfl, fun hne => ?_⟩
  case pending => exact absurd hnext hne
  all_goals
    rw [hnext]
    rfl

/-- The checks of the persisting call pass where those of the plan did. -/
theorem PaymentPlanned.paymentStateAfter {v : PaymentState} {t : PaymentTransition}
    (h : PaymentPlanned v t) : ∃ desired, Generator.paymentStateAfter v t = .ok desired := by
  have hallowed : assertAllowedTransition paymentTransitions PaymentStatus.text v.paymentStatus
      t.nextStatus "Payment" = .ok () := assertAllowedTransition_eq_ok.2 h.allowed
  have htime : assertIncreasingMutationTime v.updatedAt t.mutationTime = .ok () :=
    assertIncreasingMutationTime_eq_ok.2 ⟨h.utc, h.later⟩
  unfold Generator.paymentStateAfter
  rw [hallowed, htime]
  exact ⟨_, rfl⟩

/-- A column records an event time in UTC exactly where it holds its instant. -/
theorem recorded_iff {column : Option Timestamp} {expected : Datetime}
    (h : expected.utcoffset = some 0) : Recorded column expected ↔ column = some expected.instant := by
  cases column with
  | none => simp [Recorded]
  | some t => simp [Recorded, Datetime.equals, h]

end SpecLemmas

/-- The `UPDATE` of an order leaves the columns of `desired` in its row. -/
theorem get_updateOrder {orders : OrderTable} {row desired : OrderState}
    (hrow : orders.get desired.orderId = some row) :
    (updateOrder orders desired).get desired.orderId = some desired := by
  have hkey : row.orderId = desired.orderId := Table.key_of_get hrow
  rw [updateOrder, Table.get_modify_self, hrow]
  simp [hkey]

/-- The `UPDATE` of a payment does not write when the payment was initiated. -/
theorem get_updatePayment {payments : PaymentTable} {row desired : PaymentState}
    (hrow : payments.get (desired.orderId, desired.paymentSequential) = some row)
    (hinitiated : desired.paymentInitiatedAt = row.paymentInitiatedAt) :
    (updatePayment payments desired).get (desired.orderId, desired.paymentSequential) =
      some desired := by
  have hkey := Table.key_of_get hrow
  obtain ⟨horder, hsequential⟩ := Prod.mk.inj hkey
  rw [updatePayment, Table.get_modify_self, hrow]
  simp [horder, hsequential, ← hinitiated]

/-- `persist_order_transition` on the locked row. -/
def saveOrder (current : OrderState) (transition : OrderTransition) :
    Except Raised (Option OrderState) := do
  if ← isIdempotentOrderTransition current transition then
    return none
  assertExpectedOrderVersion current transition
  let desired ← orderStateAfter current transition.nextStatus transition.mutationTime
    transition.businessEventTime
  return some desired

theorem persistOrderTransition_eq {orders : OrderTable} {t : OrderTransition} {row : OrderState}
    (hrow : orders.get t.orderId = some row) :
    persistOrderTransition orders t = (saveOrder row t).map fun
      | none => (⟨0, 1⟩, orders)
      | some desired => (⟨1, 0⟩, updateOrder orders desired) := by
  have hlocked : lockedOrderState orders t.orderId = .ok row := by
    simp only [lockedOrderState, hrow]
  unfold persistOrderTransition saveOrder
  rw [hlocked]
  cases hidem : isIdempotentOrderTransition row t with
  | error e => simp [bind, Except.bind, Except.map, hidem]
  | ok same =>
    cases same with
    | true => simp [bind, Except.bind, Except.map, pure, Except.pure, hidem]
    | false =>
      cases hversion : assertExpectedOrderVersion row t with
      | error e => simp [bind, Except.bind, Except.map, hidem, hversion]
      | ok u =>
        cases hafter : orderStateAfter row t.nextStatus t.mutationTime t.businessEventTime with
        | error e => simp [bind, Except.bind, Except.map, hidem, hversion, hafter]
        | ok desired =>
          simp [bind, Except.bind, Except.map, pure, Except.pure, hidem, hversion, hafter]

/-- The row the idempotence check of an order accepts: the status and the `updated_at` of the
plan, and its event time in the column of that status. -/
theorem isIdempotentOrderTransition_eq_true {row : OrderState} {t : OrderTransition} :
    isIdempotentOrderTransition row t = .ok true ↔
      row.orderStatus = t.nextStatus ∧ t.mutationTime.equals row.updatedAt ∧
        ∀ column ∈ orderEventAt row t.nextStatus,
          Recorded column (t.businessEventTime.getD t.mutationTime) := by
  unfold isIdempotentOrderTransition
  split
  next hne =>
    constructor
    · intro h
      exact absurd h (by simp)
    · rintro ⟨hstatus, hupdated, -⟩
      exact absurd hne (by simp [hstatus, hupdated])
  next hsame =>
    obtain ⟨hstatus, hupdated⟩ : row.orderStatus = t.nextStatus ∧
        t.mutationTime.equals row.updatedAt := by simpa using hsame
    cases hevent : orderEventAt row t.nextStatus with
    | none => simp [hstatus, hupdated]
    | some column => simp [hstatus, hupdated]

theorem saveOrder_eq_none {row : OrderState} {t : OrderTransition} :
    saveOrder row t = .ok none ↔ isIdempotentOrderTransition row t = .ok true := by
  constructor
  · intro h
    obtain ⟨same, hidem, h⟩ := bind_eq_ok.1 h
    cases same with
    | true => exact hidem
    | false =>
      obtain ⟨_, _, h⟩ := bind_eq_ok.1 h
      obtain ⟨desired, _, h⟩ := bind_eq_ok.1 h
      cases h
  · intro h
    unfold saveOrder
    rw [h]
    rfl

theorem saveOrder_eq_some {row desired : OrderState} {t : OrderTransition}
    (h : saveOrder row t = .ok (some desired)) :
    row.orderStatus = t.expectedStatus ∧ row.updatedAt = t.expectedUpdatedAt ∧
      row.updatedAt < t.mutationTime.instant ∧ OrderAfter row t desired := by
  obtain ⟨same, _, h⟩ := bind_eq_ok.1 h
  cases same with
  | true => cases h
  | false =>
    obtain ⟨_, hversion, h⟩ := bind_eq_ok.1 h
    obtain ⟨hstatus, hupdated⟩ := require_eq_ok.1 hversion
    obtain ⟨after, hafter, h⟩ := bind_eq_ok.1 h
    cases h
    exact ⟨hstatus, hupdated, orderStateAfter_eq_ok hafter⟩

/-- What `persist_order_transition` does to the row it locks. The plan comes from a version of
the row, which is how the checks of the second half are known to pass. -/
theorem saveOrder_spec : orderRow.Save OrderTransition.orderId saveOrder where
  address_of_planned := by
    rintro v t ⟨_, _, _, h⟩
    exact (orderPlanned h).orderId
  raises hrow h := by
    show persistOrderTransition _ _ = _
    rw [persistOrderTransition_eq hrow, h]
    rfl
  skips hrow h := by
    show persistOrderTransition _ _ = _
    rw [persistOrderTransition_eq hrow, h]
    rfl
  writes := by
    intro orders t row desired hrow h
    have hafter := (saveOrder_eq_some h).2.2.2
    have hid : t.orderId = desired.orderId :=
      (Table.key_of_get hrow).symm.trans hafter.orderId.symm
    refine ⟨updateOrder orders desired, ?_, ?_⟩
    · show persistOrderTransition orders t = _
      rw [persistOrderTransition_eq hrow, h]
      rfl
    · rw [hid] at hrow ⊢
      exact get_updateOrder hrow
  advances := by
    intro row t desired h
    obtain ⟨-, -, hlt, hafter⟩ := saveOrder_eq_some h
    show row.updatedAt < desired.updatedAt
    rw [hafter.updatedAt]
    exact hlt
  expects := by
    rintro v row t desired ⟨_, _, _, hplan⟩ h
    exact (saveOrder_eq_some h).2.1.trans (orderPlanned hplan).updatedAt
  agrees := by
    rintro v row t ⟨_, _, _, hplan⟩ h
    have hp := orderPlanned hplan
    obtain ⟨hstatus, hupdated, hevent⟩ :=
      isIdempotentOrderTransition_eq_true.1 (saveOrder_eq_none.1 h)
    obtain ⟨desired, hdesired⟩ := hp.orderStateAfter
    have hafter := (orderStateAfter_eq_ok hdesired).2
    refine ⟨desired, hdesired, hstatus.trans hafter.status.symm,
      hupdated.2.trans hafter.updatedAt.symm, ?_⟩
    show orderEventAt row desired.orderStatus = orderEventAt desired desired.orderStatus
    rw [hafter.status, hafter.event]
    -- whether a status has an event column does not depend on the row
    cases hnext : t.nextStatus <;> simp only [orderEventAt, Option.map] <;> congr 1 <;>
      exact (recorded_iff (hp.event.utc hp.utc)).1 (hevent _ (by rw [hnext]; rfl))
  again := by
    rintro v row t desired ⟨_, _, _, hplan⟩ h
    have hp := orderPlanned hplan
    have hafter := (saveOrder_eq_some h).2.2.2
    refine saveOrder_eq_none.2 (isIdempotentOrderTransition_eq_true.2
      ⟨hafter.status, ?_, fun column hcolumn => ?_⟩)
    · rw [hafter.updatedAt]
      exact Datetime.equals_instant hp.utc
    · rw [hafter.event] at hcolumn
      obtain ⟨_, _, rfl⟩ := Option.map_eq_some_iff.1 hcolumn
      exact (recorded_iff (hp.event.utc hp.utc)).2 rfl

/-- `persist_payment_transition` on the locked row. -/
def savePayment (current : PaymentState) (transition : PaymentTransition) :
    Except Raised (Option PaymentState) := do
  if current.paymentStatus = transition.nextStatus ∧
      transition.mutationTime.equals current.updatedAt then
    let eventAt ← paymentEventAt current transition.nextStatus
    require (Recorded eventAt (transition.businessEventTime.getD transition.mutationTime))
      ⟨.valueError, "Payment has different values at the same updated_at cursor"⟩
    return none
  assertExpectedPaymentVersion current transition
  let desired ← paymentStateAfter current transition
  return some desired

theorem persistPaymentTransition_eq {payments : PaymentTable} {t : PaymentTransition}
    {row : PaymentState} (hrow : payments.get (t.orderId, t.paymentSequential) = some row) :
    persistPaymentTransition payments t = (savePayment row t).map fun
      | none => (⟨0, 1⟩, payments)
      | some desired => (⟨1, 0⟩, updatePayment payments desired) := by
  have hlocked : lockedPaymentState payments t.orderId t.paymentSequential = .ok row := by
    simp only [lockedPaymentState, hrow]
  unfold persistPaymentTransition savePayment
  rw [hlocked]
  by_cases hsame : row.paymentStatus = t.nextStatus ∧ t.mutationTime.equals row.updatedAt
  · cases hevent : paymentEventAt row t.nextStatus with
    | error e => simp [bind, Except.bind, Except.map, hsame, hevent]
    | ok eventAt =>
      cases hrec : require (Recorded eventAt (t.businessEventTime.getD t.mutationTime))
          ⟨.valueError, "Payment has different values at the same updated_at cursor"⟩ with
      | error e => simp [bind, Except.bind, Except.map, hsame, hevent, hrec]
      | ok u => simp [bind, Except.bind, Except.map, pure, Except.pure, hsame, hevent, hrec]
  · cases hversion : assertExpectedPaymentVersion row t with
    | error e => simp [bind, Except.bind, Except.map, hsame, hversion]
    | ok u =>
      cases hafter : paymentStateAfter row t with
      | error e => simp [bind, Except.bind, Except.map, hsame, hversion, hafter]
      | ok desired =>
        simp [bind, Except.bind, Except.map, pure, Except.pure, hsame, hversion, hafter]

theorem savePayment_eq_none {row : PaymentState} {t : PaymentTransition} :
    savePayment row t = .ok none ↔
      row.paymentStatus = t.nextStatus ∧ t.mutationTime.equals row.updatedAt ∧
        ∃ column, paymentEventAt row t.nextStatus = .ok column ∧
          Recorded column (t.businessEventTime.getD t.mutationTime) := by
  unfold savePayment
  by_cases hsame : row.paymentStatus = t.nextStatus ∧ t.mutationTime.equals row.updatedAt
  · rw [if_pos hsame]
    constructor
    · intro h
      obtain ⟨column, hcolumn, h⟩ := bind_eq_ok.1 h
      obtain ⟨_, hrec, _⟩ := bind_eq_ok.1 h
      exact ⟨hsame.1, hsame.2, column, hcolumn, require_eq_ok.1 hrec⟩
    · rintro ⟨-, -, column, hcolumn, hrec⟩
      exact bind_eq_ok.2 ⟨column, hcolumn, bind_eq_ok.2 ⟨(), require_eq_ok.2 hrec, rfl⟩⟩
  · rw [if_neg hsame]
    constructor
    · intro h
      obtain ⟨_, _, h⟩ := bind_eq_ok.1 h
      obtain ⟨desired, _, h⟩ := bind_eq_ok.1 h
      cases h
    · rintro ⟨hstatus, hupdated, -⟩
      exact absurd ⟨hstatus, hupdated⟩ hsame

theorem savePayment_eq_some {row desired : PaymentState} {t : PaymentTransition}
    (h : savePayment row t = .ok (some desired)) :
    row.paymentStatus = t.expectedStatus ∧ row.updatedAt = t.expectedUpdatedAt ∧
      row.updatedAt < t.mutationTime.instant ∧ PaymentAfter row t desired := by
  unfold savePayment at h
  split at h
  next =>
    obtain ⟨column, _, h⟩ := bind_eq_ok.1 h
    obtain ⟨_, _, h⟩ := bind_eq_ok.1 h
    cases h
  next =>
    obtain ⟨_, hversion, h⟩ := bind_eq_ok.1 h
    obtain ⟨hstatus, hupdated⟩ := require_eq_ok.1 hversion
    obtain ⟨after, hafter, h⟩ := bind_eq_ok.1 h
    cases h
    exact ⟨hstatus, hupdated, paymentStateAfter_eq_ok hafter⟩

/-- What `persist_payment_transition` does to the row it locks. -/
theorem savePayment_spec :
    paymentRow.Save (fun t => (t.orderId, t.paymentSequential)) savePayment where
  address_of_planned := by
    rintro v t ⟨_, _, _, h⟩
    exact congrArg₂ Prod.mk (paymentPlanned h).orderId (paymentPlanned h).paymentSequential
  raises hrow h := by
    show persistPaymentTransition _ _ = _
    rw [persistPaymentTransition_eq hrow, h]
    rfl
  skips hrow h := by
    show persistPaymentTransition _ _ = _
    rw [persistPaymentTransition_eq hrow, h]
    rfl
  writes := by
    intro payments t row desired hrow h
    have hafter := (savePayment_eq_some h).2.2.2
    have hkey : (t.orderId, t.paymentSequential) = (desired.orderId, desired.paymentSequential) :=
      (Table.key_of_get hrow).symm.trans
        (congrArg₂ Prod.mk hafter.orderId hafter.paymentSequential).symm
    refine ⟨updatePayment payments desired, ?_, ?_⟩
    · show persistPaymentTransition payments t = _
      rw [persistPaymentTransition_eq hrow, h]
      rfl
    · rw [hkey] at hrow ⊢
      exact get_updatePayment hrow hafter.paymentInitiatedAt
  -- the mutation time of a plan lies after the row it is applied to
  advances := by
    intro row t desired h
    obtain ⟨-, -, hlt, hafter⟩ := savePayment_eq_some h
    show row.updatedAt < desired.updatedAt
    rw [hafter.updatedAt]
    exact hlt
  expects := by
    rintro v row t desired ⟨_, _, _, hplan⟩ h
    exact (savePayment_eq_some h).2.1.trans (paymentPlanned hplan).updatedAt
  agrees := by
    rintro v row t ⟨_, _, _, hplan⟩ h
    have hp := paymentPlanned hplan
    obtain ⟨hstatus, hupdated, column, hcolumn, hrec⟩ := savePayment_eq_none.1 h
    obtain ⟨desired, hdesired⟩ := hp.paymentStateAfter
    have hafter := (paymentStateAfter_eq_ok hdesired).2
    refine ⟨desired, hdesired, hstatus.trans hafter.status.symm,
      hupdated.2.trans hafter.updatedAt.symm, ?_⟩
    show (paymentEventAt row desired.paymentStatus).toOption =
      (paymentEventAt desired desired.paymentStatus).toOption
    rw [hafter.status, hafter.event hp.next_ne_pending, hcolumn,
      (recorded_iff (hp.event.utc hp.utc)).1 hrec]
  -- the row it wrote is the one its own idempotence check accepts
  again := by
    rintro v row t desired ⟨_, _, _, hplan⟩ h
    have hp := paymentPlanned hplan
    have hafter := (savePayment_eq_some h).2.2.2
    refine savePayment_eq_none.2
      ⟨hafter.status, ?_, _, hafter.event hp.next_ne_pending, ?_⟩
    · rw [hafter.updatedAt]
      exact Datetime.equals_instant hp.utc
    · exact (recorded_iff (hp.event.utc hp.utc)).2 rfl

/-- Order and payment transitions are compare-and-set: for every row and every list of plans,
each made from a reading of that row at some point of the history the list leads to. -/
theorem transitions_compareAndSet :
    (∀ (orders : OrderTable) (row : OrderState) (plans : List OrderTransition),
      orders.get row.orderId = some row →
      (∀ plan ∈ plans, ∃ v, orderRow.IsVersion orders row.orderId plans v ∧
        orderRow.PlannedFrom v plan) →
      orderRow.CompareAndSet orders row.orderId plans) ∧
    ∀ (payments : PaymentTable) (row : PaymentState) (plans : List PaymentTransition),
      payments.get (row.orderId, row.paymentSequential) = some row →
      (∀ plan ∈ plans, ∃ v,
        paymentRow.IsVersion payments (row.orderId, row.paymentSequential) plans v ∧
          paymentRow.PlannedFrom v plan) →
      paymentRow.CompareAndSet payments (row.orderId, row.paymentSequential) plans :=
  ⟨fun _ _ _ hrow hplanned => saveOrder_spec.compareAndSet hrow hplanned,
    fun _ _ _ hrow hplanned => savePayment_spec.compareAndSet hrow hplanned⟩

/-- One order, created at time 0. -/
def createdOrder : OrderTable := ⟨[⟨"order-1", .created, none, none, none, 0⟩], by decide⟩

/-- One payment, initiated at time 0. -/
def pendingPayment : PaymentTable :=
  ⟨[⟨"order-1", 1, .pending, some 0, none, none, none, 0⟩], by decide⟩

/-- An approval planned from the created order comes twice, a cancellation planned from the
created order in between, and a shipment planned from the approved order; a payment is
completed twice. -/
theorem transitions_compareAndSet_approval :
    orderRow.CompareAndSet createdOrder "order-1"
        [⟨"order-1", .created, 0, .approved, ⟨20, some 0⟩, some ⟨10, some 0⟩⟩,
          ⟨"order-1", .created, 0, .canceled, ⟨30, some 0⟩, none⟩,
          ⟨"order-1", .created, 0, .approved, ⟨20, some 0⟩, some ⟨10, some 0⟩⟩,
          ⟨"order-1", .approved, 20, .shipped, ⟨40, some 0⟩, none⟩] ∧
      paymentRow.CompareAndSet pendingPayment ("order-1", 1)
        [⟨"order-1", 1, .pending, 0, .completed, ⟨20, some 0⟩, some ⟨10, some 0⟩⟩,
          ⟨"order-1", 1, .pending, 0, .completed, ⟨20, some 0⟩, some ⟨10, some 0⟩⟩] := by
  constructor
  · refine transitions_compareAndSet.1 createdOrder ⟨"order-1", .created, none, none, none, 0⟩ _
      (by decide) ?_
    -- the first three were planned from the created order, the last from the approved one
    have hcreated : orderRow.IsVersion createdOrder "order-1"
        [⟨"order-1", .created, 0, .approved, ⟨20, some 0⟩, some ⟨10, some 0⟩⟩,
          ⟨"order-1", .created, 0, .canceled, ⟨30, some 0⟩, none⟩,
          ⟨"order-1", .created, 0, .approved, ⟨20, some 0⟩, some ⟨10, some 0⟩⟩,
          ⟨"order-1", .approved, 20, .shipped, ⟨40, some 0⟩, none⟩]
        ⟨"order-1", .created, none, none, none, 0⟩ := ⟨[], _, rfl, rfl⟩
    intro plan hplan
    fin_cases hplan
    · exact ⟨_, hcreated, .approved, ⟨20, some 0⟩, some ⟨10, some 0⟩, by decide⟩
    · exact ⟨_, hcreated, .canceled, ⟨30, some 0⟩, none, by decide⟩
    · exact ⟨_, hcreated, .approved, ⟨20, some 0⟩, some ⟨10, some 0⟩, by decide⟩
    · exact ⟨⟨"order-1", .approved, some 10, none, none, 20⟩, ⟨[_], _, rfl, by rfl⟩, .shipped,
        ⟨40, some 0⟩, none, by decide⟩
  · refine transitions_compareAndSet.2 pendingPayment
      ⟨"order-1", 1, .pending, some 0, none, none, none, 0⟩ _ (by decide) ?_
    intro plan hplan
    have hpending : ∃ v, paymentRow.IsVersion pendingPayment ("order-1", 1)
        [⟨"order-1", 1, .pending, 0, .completed, ⟨20, some 0⟩, some ⟨10, some 0⟩⟩,
          ⟨"order-1", 1, .pending, 0, .completed, ⟨20, some 0⟩, some ⟨10, some 0⟩⟩] v ∧
        paymentRow.PlannedFrom v
          ⟨"order-1", 1, .pending, 0, .completed, ⟨20, some 0⟩, some ⟨10, some 0⟩⟩ :=
      ⟨⟨"order-1", 1, .pending, some 0, none, none, none, 0⟩, ⟨[], _, rfl, rfl⟩, .completed,
        ⟨20, some 0⟩, some ⟨10, some 0⟩, by decide⟩
    fin_cases hplan
    · exact hpending
    · exact hpending

end CommercePlatform.Generator
