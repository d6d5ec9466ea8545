import CommercePlatform.Warehouse.Chain
/-!
# Chains of closed batches in order

What the affected keys miss does not change when the source is as its writers keep it.
`persist_customer_records` refuses another row for a known customer ("Customer accounts
are immutable after creation"); `persist_subscription_records` and
`persist_membership_tier_records` write a changed row only with a greater `updated_at`,
and never move a subscription to another customer. `Unchanging` and `InOrder` say what
that means for the batches: a customer has one row, a subscription one customer, a
version of a subscription or tier one row, and a batch brings of every key rows that
were committed before or later ones.

These are conditions on the rows that are committed and say nothing of builds,
boundaries or facts. Under them `ParentsKept` follows for every incremental build
(`parentsKept_of_inOrder`), and with it the result on chains:

> `upToDate_of_closed_inOrder`: after every build of a chain of closed batches, of rows
> that do not change, in order, the facts are those of a full refresh.

The argument for one event that is not recomputed: it is an old one, and its batch was
closed, so its parents were there at the last build. The customer row is the same
because there is only one. The first version of a history is the same
(`firstVersion_kept`): its first observation is the earliest row of the key, in time
order that row is an old one, and an old row of that time is that row. And an event
whose parents were there still finds them, because rows are never removed.

`Later` allows a row to be committed again, with a later batch id, as a rewind and a
second extraction do. Without the first condition the facts can go stale: a customer row
with another city is in no affected key (`upToDate_of_closed_false`). The writers of the
source make no such row.
-/

namespace CommercePlatform.Warehouse

open Lib

/-- All rows of a table with one value of `key` have one value of `column`. -/
def Fixed {ρ κ τ : Type} (table : ObjectRows → List ρ) (key : ρ → κ) (column : ρ → τ)
    (c : Catalog) : Prop :=
  ∀ r ∈ c.rows table, ∀ r' ∈ c.rows table, key r.row = key r'.row → column r.row = column r'.row

instance {ρ κ τ : Type} [DecidableEq κ] [DecidableEq τ] (table : ObjectRows → List ρ)
    (key : ρ → κ) (column : ρ → τ) (c : Catalog) : Decidable (Fixed table key column c) :=
  inferInstanceAs (Decidable (∀ r ∈ c.rows table, _))

/-- A customer has one row, a subscription one customer, and a version one row, however often it
was extracted. -/
structure Unchanging (c : Catalog) : Prop where
  customers : Fixed ObjectRows.customersOf CustomersRow.customerId id c
  subscribers : Fixed ObjectRows.customerSubscriptionsOf CustomerSubscriptionsRow.subscriptionId
    CustomerSubscriptionsRow.customerUniqueId c
  tiers : Fixed ObjectRows.customerMembershipTiersOf
    (fun r => (r.customerUniqueId, r.updatedAt)) id c
  subscriptions : Fixed ObjectRows.customerSubscriptionsOf
    (fun r => (r.subscriptionId, r.updatedAt)) id c

instance (c : Catalog) : Decidable (Unchanging c) :=
  decidable_of_iff (_ ∧ _ ∧ _ ∧ _)
    ⟨fun ⟨customers, subscribers, tiers, subscriptions⟩ =>
      ⟨customers, subscribers, tiers, subscriptions⟩,
    fun h => ⟨h.customers, h.subscribers, h.tiers, h.subscriptions⟩⟩

/-- A new row was committed before, or is later than every old row of its key. -/
def Later {ρ : Type} (table : ObjectRows → List ρ) (key : ρ → String) (time : ρ → Timestamp)
    (old new : Catalog) : Prop :=
  ∀ r ∈ new.rows table, (∃ r' ∈ old.rows table, r'.row = r.row) ∨
    ∀ r' ∈ old.rows table, key r'.row = key r.row → time r'.row < time r.row

instance {ρ : Type} [DecidableEq ρ] (table : ObjectRows → List ρ) (key : ρ → String)
    (time : ρ → Timestamp) (old new : Catalog) : Decidable (Later table key time old new) :=
  inferInstanceAs (Decidable (∀ r ∈ new.rows table, _))

/-- The observations of a key arrive in time order, in both observed tables. -/
structure InOrder (old new : Catalog) : Prop where
  tiers : Later ObjectRows.customerMembershipTiersOf CustomerMembershipTiersRow.customerUniqueId
    CustomerMembershipTiersRow.updatedAt old new
  subscriptions : Later ObjectRows.customerSubscriptionsOf CustomerSubscriptionsRow.subscriptionId
    CustomerSubscriptionsRow.updatedAt old new

instance (old new : Catalog) : Decidable (InOrder old new) :=
  decidable_of_iff (_ ∧ _) ⟨fun ⟨tiers, subscriptions⟩ => ⟨tiers, subscriptions⟩,
    fun h => ⟨h.tiers, h.subscriptions⟩⟩

/-- A commit brings its observations in order. -/
def ObservedInOrder (s : Chain) : ChainAct → Prop
  | .commit batch objects => InOrder s.committed (batchObjects batch objects)
  | .build _ => True

instance (s : Chain) (a : ChainAct) : Decidable (ObservedInOrder s a) :=
  match a with
  | .commit batch objects =>
    inferInstanceAs (Decidable (InOrder s.committed (batchObjects batch objects)))
  | .build _ => isTrue trivial

section Rows

variable {ρ κ τ : Type} [DecidableEq κ] {c new : Catalog} {table : ObjectRows → List ρ}
  {key : ρ → κ} {time : ρ → Timestamp}

/-- An old row is a row. -/
theorem row_append (new : Catalog) {r : Landed ρ} (h : r ∈ c.rows table) :
    r ∈ (c ++ new).rows table := by
  rw [Catalog.rows_append]
  exact List.mem_append_left _ h

/-- A row that is not above the boundary is an old one. -/
theorem old_of_not_above {bound : String} (hnew : Above bound new) {r : Landed ρ}
    (hr : r ∈ (c ++ new).rows table) (h : ¬ bound < r.batchId) : r ∈ c.rows table := by
  rw [Catalog.rows_append] at hr
  exact (List.mem_append.1 hr).resolve_right fun hr => h (hnew.row hr)

omit [DecidableEq κ] in
/-- What all rows agree on, the old ones agree on. -/
theorem Fixed.old {column : ρ → τ} (h : Fixed table key column (c ++ new)) :
    Fixed table key column c :=
  fun r hr r' hr' => h r (row_append new hr) r' (row_append new hr')

/-- A key with a row has a current row. -/
theorem exists_current (key : ρ → κ) (time : ρ → Timestamp) {k : κ}
    (h : ∃ r ∈ c.rows table, key r.row = k) :
    ∃ r ∈ c.rows table, key r.row = k ∧ currentBronzeRecord table key time c k = some r := by
  obtain ⟨r, hr, hk⟩ := h
  have hsome : currentBronzeRecord table key time c k ≠ none := fun hnone =>
    latest_eq_none.1 hnone r hr hk
  obtain ⟨r', hr'⟩ := Option.ne_none_iff_exists'.1 hsome
  exact ⟨r', mem_of_latest hr', key_of_currentBronzeRecord hr', hr'⟩

end Rows

section Versions

variable {ρ : Type} {c new : Catalog} {table : ObjectRows → List ρ} {key : ρ → String}
  {time : ρ → Timestamp} {hash : ρ → String} {k : String}

/-- A key with a row has an observation in its history. -/
theorem mem_history_of_row {d : Catalog} {r : Landed ρ} (hr : r ∈ d.rows table)
    (hk : key r.row = k) :
    ∃ v ∈ history key time (observationsOf table key time hash d) k, time v.row = time r.row := by
  obtain ⟨v, hv, hvk, hvt⟩ : ∃ v ∈ observationsOf table key time hash d,
      key v.row = key r.row ∧ time v.row = time r.row := exists_observation hr
  exact ⟨v, mem_history.2 ⟨hv, hvk.trans hk⟩, hvt⟩

/-- A history with a row has a first observation, which is the earliest row of the key. -/
theorem exists_history_head {d : Catalog} (time : ρ → Timestamp) (hash : ρ → String)
    (h : ∃ r ∈ d.rows table, key r.row = k) :
    ∃ a, (history key time (observationsOf table key time hash d) k).head? = some a ∧
      a ∈ d.rows table ∧ key a.row = k ∧
      ∀ r ∈ d.rows table, key r.row = k → time a.row ≤ time r.row := by
  have hsorted : (history key time (observationsOf table key time hash d) k).Pairwise
      fun a b => time a.row ≤ time b.row := history_sorted _ _
  -- what is in the history is in the table, and every row has an observation of its time there
  have hmember : ∀ a ∈ history key time (observationsOf table key time hash d) k,
      a ∈ d.rows table ∧ key a.row = k := fun a ha =>
    ⟨mem_of_current (mem_history.1 ha).1, (mem_history.1 ha).2⟩
  have hrows : ∀ r ∈ d.rows table, key r.row = k →
      ∃ v ∈ history key time (observationsOf table key time hash d) k, time v.row = time r.row :=
    fun r hr hk => mem_history_of_row hr hk
  obtain ⟨r, hr, hk⟩ := h
  cases hlist : history key time (observationsOf table key time hash d) k with
  | nil =>
    obtain ⟨v, hv, -⟩ := hrows r hr hk
    rw [hlist] at hv
    cases hv
  -- the history is in order of time, so its head is not later than any row
  | cons a rest =>
    rw [hlist] at hsorted hmember hrows
    refine ⟨a, rfl, (hmember a List.mem_cons_self).1, (hmember a List.mem_cons_self).2, ?_⟩
    intro r hr hk
    obtain ⟨v, hv, ht⟩ := hrows r hr hk
    rw [← ht]
    rcases List.mem_cons.1 hv with rfl | hlater
    · exact le_refl _
    · exact (List.pairwise_cons.1 hsorted).1 v hlater

/-- In time order the first version of a history stays the first: the earliest row of the key is
an old one, and no new observation comes before it. -/
theorem firstVersion_kept (axis : Axis (Landed ρ) String Timestamp)
    (haxis : ∀ r r' : Landed ρ, r.row = r'.row →
      axis.start r = axis.start r' ∧ axis.hash r = axis.hash r')
    (hfixed : Fixed table (fun r => (key r, time r)) id (c ++ new))
    (hlater : Later table key time c new) (h : ∃ r ∈ c.rows table, key r.row = k) :
    firstVersion axis (history key time (observationsOf table key time hash (c ++ new)) k) =
      firstVersion axis (history key time (observationsOf table key time hash c) k) := by
  obtain ⟨b, hb, hbc, hbk, hbfirst⟩ := exists_history_head time hash h
  obtain ⟨a, ha, hac, hak, hafirst⟩ := exists_history_head (d := c ++ new) time hash
    ⟨b, row_append new hbc, hbk⟩
  -- the first row of the longer history is an old one, so none is earlier
  have hle : time b.row ≤ time a.row := by
    rw [Catalog.rows_append] at hac
    rcases List.mem_append.1 hac with hac | hac
    · exact hbfirst a hac hak
    · rcases hlater a hac with ⟨r, hr, hrow⟩ | hlate
      · rw [← hrow]
        exact hbfirst r hr (by rw [hrow, hak])
      · exact le_of_lt (hlate b hbc (hbk.trans hak.symm))
  have htime : time a.row = time b.row := le_antisymm (hafirst b (row_append new hbc) hbk) hle
  have hrow : a.row = b.row :=
    hfixed a hac b (row_append new hbc) (Prod.ext (hak.trans hbk.symm) htime)
  unfold firstVersion
  rw [ha, hb, Option.map_some, Option.map_some, (haxis a b hrow).1, (haxis a b hrow).2]

end Versions

section Models

variable {engine : Engine} {c new : Catalog} {bound : String}

/-- The current row of a customer with a row. -/
theorem customerOf_eq {d : Catalog} (hfixed : Fixed ObjectRows.customersOf CustomersRow.customerId
    id d) {r : Landed CustomersRow} (hr : r ∈ d.rows ObjectRows.customersOf) :
    customerOf d r.row.customerId = some r.row := by
  obtain ⟨r', hr', hk, hcurrent⟩ := exists_current CustomersRow.customerId
    CustomersRow.createdAt ⟨r, hr, rfl⟩
  unfold customerOf
  rw [hcurrent, Option.map_some]
  exact congrArg some (hfixed r' hr' r hr hk)

/-- The current row of a subscription names the customer all its rows name. -/
theorem subscriber_eq {d : Catalog} (hfixed : Fixed ObjectRows.customerSubscriptionsOf
    CustomerSubscriptionsRow.subscriptionId CustomerSubscriptionsRow.customerUniqueId d)
    {s : Landed CustomerSubscriptionsRow} (hs : s ∈ d.rows ObjectRows.customerSubscriptionsOf) :
    (subscriptionOf d s.row.subscriptionId).map CustomerSubscriptionsRow.customerUniqueId =
      some s.row.customerUniqueId := by
  obtain ⟨r, hr, hk, hcurrent⟩ := exists_current CustomerSubscriptionsRow.subscriptionId
    CustomerSubscriptionsRow.updatedAt ⟨s, hs, rfl⟩
  unfold subscriptionOf
  rw [hcurrent, Option.map_some, Option.map_some]
  exact congrArg some (hfixed r hr s hs hk)

/-- The first tier of a customer with a tier is kept. -/
theorem tierKept_of_inOrder (hunchanging : Unchanging (c ++ new)) (horder : InOrder c new)
    {id : String} (t : Timestamp)
    (h : ∃ v ∈ c.rows ObjectRows.customerMembershipTiersOf, v.row.customerUniqueId = id) :
    TierKept engine c (c ++ new) id t :=
  .inr (firstVersion_kept (customerAxis engine)
    (fun _ _ hrow => ⟨congrArg CustomerMembershipTiersRow.createdAt hrow,
      congrArg (tierHash engine) hrow⟩)
    hunchanging.tiers horder.tiers h)

/-- The first version of a subscription with a row is kept. -/
theorem subscriptionKept_of_inOrder (hunchanging : Unchanging (c ++ new)) (horder : InOrder c new)
    {id : String} (t : Timestamp)
    (h : ∃ v ∈ c.rows ObjectRows.customerSubscriptionsOf, v.row.subscriptionId = id) :
    SubscriptionKept engine c (c ++ new) id t :=
  .inr (firstVersion_kept (subscriptionAxis engine)
    (fun _ _ hrow => ⟨congrArg CustomerSubscriptionsRow.subscriptionStartedAt hrow,
      congrArg (subscriptionHash engine) hrow⟩)
    hunchanging.subscriptions horder.subscriptions h)

/-- An old order of a closed catalog reads the same parents. -/
theorem orderKept_of_inOrder (hclosed : ReferentiallyClosed c)
    (hunchanging : Unchanging (c ++ new)) (horder : InOrder c new) {o : Landed OrdersRow}
    (ho : o ∈ c.rows ObjectRows.ordersOf) : OrderKept engine c (c ++ new) o := by
  obtain ⟨r, hr, hk, v, hv, hvk⟩ := hclosed.orders o ho
  have hold : customerOf c o.row.customerId = some r.row := by
    rw [← hk]
    exact customerOf_eq hunchanging.customers.old hr
  have hnow : customerOf (c ++ new) o.row.customerId = some r.row := by
    rw [← hk]
    exact customerOf_eq hunchanging.customers (row_append new hr)
  refine ⟨?_, .inl ⟨?_, fun id hid => ?_⟩⟩
  · unfold customerPlace
    rw [hold, hnow]
  · unfold stgOrder
    rw [hold, hnow]
  · have hcustomer : some r.row.customerUniqueId = some id := by
      rw [← hid]
      unfold stgOrder
      rw [hnow]
      rfl
    exact tierKept_of_inOrder hunchanging horder _ ⟨v, hv, hvk.trans (Option.some.inj hcustomer)⟩

/-- A subscription payment of the staging model, and the row it is made of. -/
theorem exists_paymentRow {d : Catalog} {p : StgSubscriptionPayment}
    (h : p ∈ stgSubscriptionPayments d) :
    ∃ q ∈ d.rows ObjectRows.subscriptionPaymentsOf, q.row = p.payment ∧ q.batchId = p.batchId ∧
      (subscriptionOf d p.payment.subscriptionId).map CustomerSubscriptionsRow.customerUniqueId =
        some p.customerId := by
  obtain ⟨q, hq, hp⟩ := List.mem_filterMap.1 h
  obtain ⟨s, hs, rfl⟩ := Option.map_eq_some_iff.1 hp
  exact ⟨q, mem_of_current hq, rfl, rfl, by rw [hs, Option.map_some]⟩

/-- An old subscription payment of a closed catalog reads the same parents. -/
theorem paymentKept_of_inOrder (hclosed : ReferentiallyClosed c)
    (hunchanging : Unchanging (c ++ new)) (horder : InOrder c new) {p : StgSubscriptionPayment}
    {q : Landed SubscriptionPaymentsRow} (hq : q ∈ c.rows ObjectRows.subscriptionPaymentsOf)
    (hrow : q.row = p.payment)
    (hcustomer : (subscriptionOf (c ++ new) p.payment.subscriptionId).map
      CustomerSubscriptionsRow.customerUniqueId = some p.customerId) :
    PaymentKept engine c (c ++ new) p := by
  obtain ⟨s, hs, hk, v, hv, hvk⟩ := hclosed.subscriptionPayments q hq
  rw [hrow] at hk
  have hnow := subscriber_eq hunchanging.subscribers (row_append new hs)
  rw [hk, hcustomer] at hnow
  have hsame : p.customerId = s.row.customerUniqueId := Option.some.inj hnow
  refine ⟨?_, subscriptionKept_of_inOrder hunchanging horder _ ⟨s, hs, hk⟩,
    tierKept_of_inOrder hunchanging horder _ ⟨v, hv, hvk.trans hsame.symm⟩⟩
  rw [← hk, hsame]
  exact subscriber_eq hunchanging.subscribers.old hs

/-- In a closed catalog every subscription payment finds its subscription and a tier. -/
theorem exists_joined {d : Catalog} (hclosed : ReferentiallyClosed d) (hunchanging : Unchanging d)
    {q : Landed SubscriptionPaymentsRow} (hq : q ∈ subscriptionPaymentsCurrent d) :
    ∃ p ∈ stgSubscriptionPayments d, p.payment = q.row ∧ Tiered engine d p := by
  obtain ⟨s, hs, hk, v, hv, hvk⟩ := hclosed.subscriptionPayments q (mem_of_current hq)
  obtain ⟨x, hx, hcustomer⟩ := Option.map_eq_some_iff.1 (subscriber_eq hunchanging.subscribers hs)
  rw [hk] at hx
  refine ⟨⟨q.row, x.customerUniqueId, q.batchId⟩, List.mem_filterMap.2 ⟨q, hq, ?_⟩, rfl, ?_⟩
  · unfold stgSubscriptionPayment
    rw [hx]
    rfl
  · obtain ⟨w, hw, hwk, -⟩ : ∃ w ∈ stgCustomerTierObservations engine d,
        w.row.customerUniqueId = v.row.customerUniqueId ∧ w.row.updatedAt = v.row.updatedAt :=
      exists_observation hv
    exact ⟨w, hw, hwk.trans (hvk.trans hcustomer.symm)⟩

/-- Closed batches in order keep the parents of all events that are not recomputed. -/
theorem parentsKept_of_inOrder (hnew : Above bound new) (hold : ReferentiallyClosed c)
    (hclosed : ReferentiallyClosed (c ++ new)) (hunchanging : Unchanging (c ++ new))
    (horder : InOrder c new) : ParentsKept engine c (c ++ new) bound where
  orders o ho := by
    by_cases habove : bound < o.batchId
    · exact .inl (.inl habove)
    · exact .inr (orderKept_of_inOrder hold hunchanging horder
        (old_of_not_above hnew (mem_of_current ho) habove))
  payments p hp _ := by
    obtain ⟨q, hq, hrow, hbatch, hcustomer⟩ := exists_paymentRow hp
    by_cases habove : bound < p.batchId
    · exact .inl (.inl habove)
    · rw [← hbatch] at habove
      exact .inr (paymentKept_of_inOrder hold hunchanging horder (old_of_not_above hnew hq habove)
        hrow hcustomer)
  joined p hp _ := by
    obtain ⟨q, hq, hrow, -, -⟩ := exists_paymentRow hp
    obtain ⟨r, hr, hk, hcurrent⟩ := exists_current SubscriptionPaymentsRow.paymentId
      SubscriptionPaymentsRow.updatedAt ⟨q, row_append new hq, rfl⟩
    have hmem : r ∈ subscriptionPaymentsCurrent (c ++ new) :=
      mem_currentBronzeRecords.2 (by rw [hk]; exact hcurrent)
    obtain ⟨p', hp', hpayment, htiered⟩ := exists_joined hclosed hunchanging hmem
    exact ⟨p', hp', by rw [hpayment, hk, hrow], htiered⟩

/-! ## Chains in order -/

/-- Two batches of later observations are one. -/
theorem Later.append {ρ : Type} {table : ObjectRows → List ρ} {key : ρ → String}
    {time : ρ → Timestamp} {more : Catalog} (h : Later table key time c new)
    (hmore : Later table key time (c ++ new) more) : Later table key time c (new ++ more) := by
  intro r hr
  rw [Catalog.rows_append] at hr
  rcases List.mem_append.1 hr with hr | hr
  · exact h r hr
  · rcases hmore r hr with ⟨r', hr', hrow⟩ | hlate
    · rw [Catalog.rows_append] at hr'
      rcases List.mem_append.1 hr' with hr' | hr'
      · exact .inl ⟨r', hr', hrow⟩
      · rw [← hrow]
        exact h r' hr'
    · exact .inr fun r' hr' hk => hlate r' (row_append new hr') hk

theorem InOrder.append {more : Catalog} (h : InOrder c new) (hmore : InOrder (c ++ new) more) :
    InOrder c (new ++ more) :=
  ⟨h.tiers.append hmore.tiers, h.subscriptions.append hmore.subscriptions⟩

/-- Nothing new is in order. -/
theorem inOrder_nil (c : Catalog) : InOrder c [] :=
  ⟨List.forall_mem_nil _, List.forall_mem_nil _⟩

/-- One step of a chain of closed batches, of rows that do not change, in order. -/
structure ClosedStep (engine : Engine) (s : Chain) (a : ChainAct) (t : Chain) : Prop where
  step : s.Step engine a t
  closed : ReferentiallyClosed t.committed
  unchanging : Unchanging t.committed
  inOrder : ObservedInOrder s a

/-- What holds in every state of such a chain: the invariant of the chain, a closed catalog at
the last build, and what is new in order. -/
structure ClosedInv (engine : Engine) (s : Chain) : Prop where
  chain : ChainInv engine s
  closed : ReferentiallyClosed s.built
  /-- What was committed after the last build came in order. -/
  inOrder : ∀ new, s.committed = s.built ++ new → InOrder s.built new

/-- A build of such a chain finds the parents it does not recompute. -/
theorem ClosedInv.parentsHold {s t : Chain} {a : ChainAct} (h : ClosedInv engine s)
    (hstep : ClosedStep engine s a t) : ParentsHold engine s a := by
  obtain ⟨⟨-, rfl⟩, hclosed, hunchanging, -⟩ := hstep
  cases a with
  | commit batch objects => trivial
  | build full =>
    cases full with
    | true => trivial
    | false =>
      intro _
      obtain ⟨new, hc, habove⟩ := h.chain.above
      have horder := h.inOrder new hc
      simp only [Chain.after] at hclosed hunchanging
      rw [hc] at hclosed hunchanging ⊢
      exact parentsKept_of_inOrder habove h.closed hclosed hunchanging horder

/-- One step keeps the invariant. -/
theorem ClosedInv.step {s t : Chain} {a : ChainAct} (h : ClosedInv engine s)
    (hstep : ClosedStep engine s a t) : ClosedInv engine t := by
  have hparents := h.parentsHold hstep
  obtain ⟨⟨hids, rfl⟩, hclosed, -, hobserved⟩ := hstep
  cases a with
  | commit batch objects =>
    refine ⟨h.chain.commit hids, h.closed, fun more hmore => ?_⟩
    obtain ⟨new, hc, -⟩ := h.chain.above
    have horder := h.inOrder new hc
    simp only [Chain.after, ObservedInOrder] at hmore hobserved ⊢
    rw [hc] at hmore hobserved
    rw [List.append_assoc] at hmore
    rw [← List.append_cancel_left hmore]
    exact horder.append hobserved
  | build full =>
    refine ⟨h.chain.build hparents, hclosed, fun more hmore => ?_⟩
    have hnil : more = [] := List.append_right_eq_self.1 hmore.symm
    rw [hnil]
    exact inOrder_nil _

theorem closedInv_of_run {acts : List ChainAct} {s : Chain}
    (h : Run (ClosedStep engine) Chain.empty acts s) : ClosedInv engine s := by
  refine h.invariant (I := ClosedInv engine) ⟨?_, ?_, ?_⟩ fun t a u hI hs => hI.step hs
  · have hstart : Run (fun s a t => s.Step engine a t ∧ ParentsHold engine s a)
        Chain.empty [] Chain.empty := .nil
    exact chainInv_of_run hstart fun _ _ _ hs => hs
  · exact ⟨List.forall_mem_nil _, List.forall_mem_nil _, List.forall_mem_nil _,
      List.forall_mem_nil _⟩
  · intro new hnew
    have hnil : new = [] := hnew.symm
    rw [hnil]
    exact inOrder_nil _

/-- After every build of a chain of closed batches in order the facts are up to date. -/
theorem upToDate_of_closed_inOrder (engine : Engine) (acts : List ChainAct) (full : Bool)
    {s : Chain}
    (h : Run (fun s a t => s.Step engine a t ∧ ReferentiallyClosed t.committed ∧
      Unchanging t.committed ∧ ObservedInOrder s a) Chain.empty (acts ++ [.build full]) s) :
    UpToDate engine s := by
  have hclosed : Run (ClosedStep engine) Chain.empty (acts ++ [.build full]) s :=
    h.imp fun _ _ _ hs => ⟨hs.1, hs.2.1, hs.2.2.1, hs.2.2.2⟩
  -- the invariant gives every build its parents
  have hunder := hclosed.under fun _ a _ u v _ hu hs _ => (closedInv_of_run hu).parentsHold hs
  exact upToDate_of_closed acts full
    (hunder.imp fun _ _ _ hs => ⟨hs.1.step, hs.1.closed, hs.2⟩)

end Models

/-- An order of a customer with a tier; the tier changes before a second order, and a
subscription of the customer is paid. The last batch extracts the first rows again. -/
private def growing : List ChainAct := [
  .commit firstHour [(1, .customers [sampleCustomer "sp"]),
    (1, .customerMembershipTiers [sampleTier 1]), (1, .orders [sampleOrder "o-1" "created" 5])],
  .build false,
  .commit secondHour [(2, .customerMembershipTiers [sampleTier 7]),
    (2, .orders [sampleOrder "o-2" "created" 8]),
    (2, .customerSubscriptions [sampleSubscription]), (2, .subscriptionPayments [samplePayment])],
  .build false,
  .commit thirdHour [(3, .customers [sampleCustomer "sp"]),
    (3, .customerMembershipTiers [sampleTier 1]), (3, .orders [sampleOrder "o-1" "approved" 9])]]

theorem upToDate_of_closed_inOrder_growing :
    UpToDate textEngine (chainOf (growing ++ [.build false])) := by
  refine upToDate_of_closed_inOrder textEngine growing false (Run.of_enabled ?_)
  exact ⟨⟨⟨by decide, rfl⟩, by decide, by decide, by decide⟩,
    ⟨⟨by decide +kernel, rfl⟩, by decide, by decide, by decide⟩,
    ⟨⟨by decide, rfl⟩, by decide, by decide, by decide⟩,
    ⟨⟨by decide +kernel, rfl⟩, by decide, by decide, by decide⟩,
    ⟨⟨by decide, rfl⟩, by decide, by decide, by decide⟩,
    ⟨⟨by decide +kernel, rfl⟩, by decide, by decide, by decide⟩, trivial⟩

/-- The customer of an order comes again with another city. -/
private def movedCustomer : List ChainAct := [
  .commit firstHour [(1, .customers [sampleCustomer "sp"]),
    (1, .customerMembershipTiers [sampleTier 1]), (1, .orders [sampleOrder "o-1" "created" 5])],
  .build false,
  .commit secondHour [(2, .customers [sampleCustomer "rio"])]]

/-- A chain whose stale city differs from the fresh one is not up to date. -/
private theorem not_upToDate_of_city {s : Chain} (stale fresh : Option String)
    (hstale : s.mart.facts.map (fun f => f.order.map FctOrder.customerCity) = some [stale])
    (hfresh : fresh ∈ (fctOrder textEngine s.committed).map FctOrder.customerCity)
    (hne : fresh ≠ stale) : ¬ UpToDate textEngine s := by
  rintro ⟨f, hf, hsame⟩
  rw [hf] at hstale
  obtain ⟨r, hr, hcity⟩ := List.mem_map.1 hfresh
  have hold := List.mem_map_of_mem (f := FctOrder.customerCity) ((hsame.order r).2 hr)
  have hcities : f.order.map FctOrder.customerCity = [stale] := Option.some.inj hstale
  rw [hcities, hcity] at hold
  exact hne (List.mem_singleton.1 hold)

theorem upToDate_of_closed_false :
    ¬ ∀ (engine : Engine) (acts : List ChainAct) (full : Bool) (s : Chain),
      Run (fun s a t => s.Step engine a t ∧ ReferentiallyClosed t.committed) Chain.empty
        (acts ++ [.build full]) s → UpToDate engine s := by
  intro h
  refine not_upToDate_of_city (some "sp") (some "rio") ?_ ?_ (by decide)
    (h textEngine movedCustomer false (chainOf (movedCustomer ++ [.build false]))
      (Run.of_enabled ?_))
  · decide +kernel
  · decide +kernel
  · exact ⟨⟨⟨by decide, rfl⟩, by decide⟩, ⟨⟨by decide +kernel, rfl⟩, by decide⟩,
      ⟨⟨by decide, rfl⟩, by decide⟩, ⟨⟨by decide +kernel, rfl⟩, by decide⟩, trivial⟩

end CommercePlatform.Warehouse
