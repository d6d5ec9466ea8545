import CommercePlatform.Control.Batch
import CommercePlatform.Ingestion.BatchOrder
import CommercePlatform.Warehouse.DataTests
import CommercePlatform.Warehouse.Incremental
/-!
# The processed-batch boundary over a run

Ingestion commits and builds in any order. A build reads the catalog that was synced
when it was prepared; objects committed afterwards are for the next build, which looks
only at batch ids above the boundary. The boundary is the largest batch id any advancing
build showed, compared as text, so it is the order of the texts and not that of the
commits that decides what is recomputed.

`NothingSkipped` says of a state that every object no advancing build has read will be
in the affected-key computation of the next build: its batch id lies above the boundary,
and so every row of it that the staging models show reaches the keys it can change
(`Included`). The first half is about ids and the second about the arms of the affected
keys:

- `shownBelow_iff`: nothing is skipped in any state of a run iff each later object lies
  above the ids a build showed. One direction is that the boundary is a maximum of shown
  ids (`le_bound`); the other that an object a build did not read stays unread until one
  reads it (`synced_le_read`), so the first state after both of them already fails;
- `included_of_above`: the rows of an object above the boundary reach the affected keys,
  table by table. A row of `orders` is its own key, an item or payment leads to its
  order if that is there, a product or seller to the orders with such an item, an
  observation to the events from its time on.

A condition on the commits alone is `CommitsAbove`: the ids of what is committed after a
successful build synced its catalog lie above the ids of what that catalog holds in the
tables the boundary watches. It is enough (`nothingSkipped_of_commitsAbove`), and one
DAG whose logical dates increase meets it (`commitsAbove_of_oneDag`), since the batch
ids of a DAG sort in the order of time (`Ingestion.BatchOrder`). A re-extraction under
another DAG id need not: `backfill__…` sorts below `ingest__…`, whatever the dates, and
`nothingSkipped_false` is that run, with builds that pass their tests.

Mirroring notes vs `processed_batch_watermark.sql` and `publish.py`:

- A build whose data tests fail is quarantined: the published file and the boundary in
  it stay. The other ways a build can fail end the same way and have no event of their
  own.
- Builds of a part of the models and `bronze_as_of` builds do not advance the boundary
  and are not modelled; `full` is `--full-refresh`.
- A build may run any time after its sync, and commits may come in between. A second
  sync before the build replaces the first.
-/

namespace CommercePlatform.Warehouse

open Lib

/-- Committed objects, the catalog of the build being prepared, and the warehouse. -/
structure Pipeline where
  committed : Catalog
  /-- How many objects `sync_bronze_catalog` copied last. -/
  synced : Nat
  /-- How many objects the last advancing build read. -/
  read : Nat
  mart : Mart

/-- Nothing committed, nothing built. -/
def Pipeline.empty : Pipeline := ⟨[], 0, 0, Mart.empty⟩

/-- One event: a commit, the sync of a build that is prepared, or that build. Any list of them is
a run. -/
inductive Act where
  /-- A table batch is committed. -/
  | commit (batch : BatchIdentity) (ingestedAt : Timestamp) (rows : ObjectRows)
  /-- A build is prepared: the catalog is synced. -/
  | sync
  /-- The prepared build runs. -/
  | build (full : Bool)

/-- The object a commit adds. -/
def committedObject (batch : BatchIdentity) (ingestedAt : Timestamp) (rows : ObjectRows) :
    BronzeObject := ⟨batch.batchId, ingestedAt, rows⟩

/-- The object holds a row of one of the tables behind `batch_id_source_models`. -/
def BronzeObject.Watched (o : BronzeObject) : Prop :=
  o.rows.ordersOf ≠ [] ∨ o.rows.orderItemsOf ≠ [] ∨ o.rows.orderPaymentsOf ≠ [] ∨
    o.rows.productsOf ≠ [] ∨ o.rows.sellersOf ≠ [] ∨ o.rows.customerMembershipTiersOf ≠ [] ∨
    o.rows.customerSubscriptionsOf ≠ [] ∨ o.rows.subscriptionPaymentsOf ≠ []

section Models

variable (engine : Engine)

/-- The catalog the prepared build reads. -/
def Pipeline.catalog (s : Pipeline) : Catalog := s.committed.take s.synced

/-- The prepared build passes its data tests. A build that does not is an event without effect. -/
def Pipeline.Succeeds (s : Pipeline) (full : Bool) : Prop := s.mart.Succeeds engine full s.catalog

instance (s : Pipeline) (full : Bool) : Decidable (s.Succeeds engine full) :=
  inferInstanceAs (Decidable (s.mart.Succeeds engine full s.catalog))

/-- One step of the pipeline. A build that fails leaves the published warehouse as it is. -/
def Pipeline.step (s : Pipeline) : Act → Pipeline
  | .commit batch ingestedAt rows =>
    { s with committed := s.committed ++ [committedObject batch ingestedAt rows] }
  | .sync => { s with synced := s.committed.length }
  | .build full =>
    if s.Succeeds engine full then
      { s with
        read := if shownBatchIds engine s.catalog = [] then s.read else s.synced
        mart := s.mart.build engine full s.catalog }
    else s

/-- The state after a list of events. -/
def Pipeline.run (acts : List Act) : Pipeline := acts.foldl (Pipeline.step engine) .empty

theorem Pipeline.run_snoc (acts : List Act) (a : Act) :
    Pipeline.run engine (acts ++ [a]) = (Pipeline.run engine acts).step engine a := by
  simp [run]

/-- The rows of an object that the staging models show reach the affected keys of a build
of `d`: their own order or payment, the orders with an item of the product or seller, and
the orders and payments from the observation on. -/
structure Included (d : Catalog) (bound : String) (o : BronzeObject) : Prop where
  orders : ∀ r ∈ o.landed ObjectRows.ordersOf, r ∈ ordersCurrent d →
    orderAffected engine d bound r.row.orderId = true
  orderItems : ∀ r ∈ o.landed ObjectRows.orderItemsOf, r ∈ stgOrderItems d →
    OrderPresent d r.row.orderId → orderAffected engine d bound r.row.orderId = true
  orderPayments : ∀ r ∈ o.landed ObjectRows.orderPaymentsOf, r ∈ stgPayments d →
    OrderPresent d r.row.orderId → orderAffected engine d bound r.row.orderId = true
  products : ∀ r ∈ o.landed ObjectRows.productsOf, r ∈ stgProducts d →
    ∀ i ∈ stgOrderItems d, i.row.productId = r.row.productId → OrderPresent d i.row.orderId →
      orderAffected engine d bound i.row.orderId = true
  sellers : ∀ r ∈ o.landed ObjectRows.sellersOf, r ∈ stgSellers d →
    ∀ i ∈ stgOrderItems d, i.row.sellerId = r.row.sellerId → OrderPresent d i.row.orderId →
      orderAffected engine d bound i.row.orderId = true
  tiers : ∀ r ∈ o.landed ObjectRows.customerMembershipTiersOf,
    r ∈ stgCustomerTierObservations engine d →
      (∀ so ∈ stgOrders d, so.customerId = some r.row.customerUniqueId →
        r.row.updatedAt ≤ so.order.orderPurchaseTimestamp →
        orderAffected engine d bound so.order.orderId = true) ∧
      ∀ p ∈ stgSubscriptionPayments d, p.customerId = r.row.customerUniqueId →
        r.row.updatedAt ≤ p.payment.paymentAt →
        paymentAffected engine d bound p.payment.paymentId = true
  subscriptions : ∀ r ∈ o.landed ObjectRows.customerSubscriptionsOf,
    r ∈ stgCustomerSubscriptionObservations engine d →
      ∀ p ∈ stgSubscriptionPayments d, p.payment.subscriptionId = r.row.subscriptionId →
        r.row.updatedAt ≤ p.payment.paymentAt →
        paymentAffected engine d bound p.payment.paymentId = true
  subscriptionPayments : ∀ r ∈ o.landed ObjectRows.subscriptionPaymentsOf,
    r ∈ subscriptionPaymentsCurrent d → ∀ p ∈ stgSubscriptionPayment d r,
      paymentAffected engine d bound p.payment.paymentId = true

/-- Every object committed after the catalog of the last advancing build lies above the
boundary of the next build, and its rows are in the affected keys of that build, whatever
part of the commits the build reads. -/
def NothingSkipped (s : Pipeline) : Prop :=
  ∀ o ∈ s.committed.drop s.read, s.mart.bound < o.batchId ∧
    ∀ n, Included engine (s.committed.take n) s.mart.bound o

/-- Every object committed after a successful build synced its catalog, before or after
the build ran, has a batch id above those of the watched objects in that catalog. -/
def CommitsAbove (acts : List Act) : Prop :=
  ∀ before after full, acts = before ++ Act.build full :: after →
    (Pipeline.run engine before).Succeeds engine full →
    ∀ o ∈ (Pipeline.run engine acts).committed.drop (Pipeline.run engine before).synced,
      ∀ shown ∈ (Pipeline.run engine before).catalog, shown.Watched → shown.batchId < o.batchId

/-- The same of the batch ids the staging models showed the build. -/
def ShownBelow (acts : List Act) : Prop :=
  ∀ before after full, acts = before ++ Act.build full :: after →
    (Pipeline.run engine before).Succeeds engine full →
    ∀ o ∈ (Pipeline.run engine acts).committed.drop (Pipeline.run engine before).synced,
      ∀ b ∈ shownBatchIds engine (Pipeline.run engine before).catalog, b < o.batchId

theorem bound_snoc (processed : List String) (b : String) :
    processedBatchLowerBound (processed ++ [b]) = max (processedBatchLowerBound processed) b := by
  unfold processedBatchLowerBound
  induction processed with
  | nil => simp [max_comm]
  | cons p ps ih => rw [List.cons_append, List.foldr_cons, ih, List.foldr_cons, max_assoc]

/-- The boundary after a build: the old one, or the largest id shown. -/
theorem bound_build (w : Mart) (full : Bool) (c : Catalog) (x : String) :
    x ≤ (w.build engine full c).bound ↔ x ≤ w.bound ∨ ∃ b ∈ shownBatchIds engine c, x ≤ b := by
  unfold Mart.bound Mart.build advanceProcessedBatch
  cases hmax : (shownBatchIds engine c).max? with
  | none =>
    have hnil : shownBatchIds engine c = [] := List.max?_eq_none_iff.1 hmax
    simp [hnil]
  | some m =>
    obtain ⟨hm, hle⟩ := List.max?_eq_some_iff.1 hmax
    dsimp only
    rw [bound_snoc, le_max_iff]
    constructor
    · rintro (h | h)
      · exact Or.inl h
      · exact Or.inr ⟨m, hm, h⟩
    · rintro (h | ⟨b, hb, h⟩)
      · exact Or.inl h
      · exact Or.inr (le_trans h (hle b hb))

variable {engine}

/-- A successful build reads the synced catalog and moves the boundary. -/
theorem Pipeline.step_succeeds {s : Pipeline} {full : Bool} (h : s.Succeeds engine full) :
    s.step engine (.build full) =
      { s with
        read := if shownBatchIds engine s.catalog = [] then s.read else s.synced
        mart := s.mart.build engine full s.catalog } := if_pos h

theorem Pipeline.step_fails {s : Pipeline} {full : Bool} (h : ¬ s.Succeeds engine full) :
    s.step engine (.build full) = s := if_neg h

variable (engine)

/-- A step never lowers the boundary. -/
theorem bound_mono (s : Pipeline) (a : Act) (x : String) (h : x ≤ s.mart.bound) :
    x ≤ (s.step engine a).mart.bound := by
  cases a with
  | commit batch ingestedAt rows => simpa only [Pipeline.step] using h
  | sync => simpa only [Pipeline.step] using h
  | build full =>
    by_cases hs : s.Succeeds engine full
    · rw [Pipeline.step_succeeds hs]
      exact (bound_build engine s.mart full s.catalog x).2 (Or.inl h)
    · rwa [Pipeline.step_fails hs]

/-- The boundary lies below nothing but the ids some successful build showed: by induction on the
run. -/
theorem le_bound (acts : List Act) (x : String) (h : x ≤ (Pipeline.run engine acts).mart.bound) :
    x ≤ "" ∨ ∃ before after full b, acts = before ++ Act.build full :: after ∧
      (Pipeline.run engine before).Succeeds engine full ∧
      b ∈ shownBatchIds engine (Pipeline.run engine before).catalog ∧ x ≤ b := by
  induction acts using List.reverseRecOn with
  | nil => exact Or.inl h
  | append_singleton acts a ih =>
    rw [Pipeline.run_snoc] at h
    -- an id below the old boundary comes from an earlier build
    have hold : x ≤ (Pipeline.run engine acts).mart.bound →
        x ≤ "" ∨ ∃ before after full b, acts ++ [a] = before ++ Act.build full :: after ∧
          (Pipeline.run engine before).Succeeds engine full ∧
          b ∈ shownBatchIds engine (Pipeline.run engine before).catalog ∧ x ≤ b := by
      intro h'
      rcases ih h' with h₀ | ⟨before, after, full, b, rfl, hs, hb, hle⟩
      · exact Or.inl h₀
      · exact Or.inr ⟨before, after ++ [a], full, b, by simp, hs, hb, hle⟩
    cases a with
    | commit batch ingestedAt rows => exact hold (by simpa only [Pipeline.step] using h)
    | sync => exact hold (by simpa only [Pipeline.step] using h)
    | build full =>
      by_cases hs : (Pipeline.run engine acts).Succeeds engine full
      · rw [Pipeline.step_succeeds hs] at h
        rcases (bound_build engine _ full _ x).1 h with h' | ⟨b, hb, hle⟩
        · exact hold h'
        · exact Or.inr ⟨acts, [], full, b, rfl, hs, hb, hle⟩
      · rw [Pipeline.step_fails hs] at h
        exact hold h

/-- The build in preparation and the last one read prefixes of the commits. -/
theorem read_le_synced_le (acts : List Act) :
    (Pipeline.run engine acts).read ≤ (Pipeline.run engine acts).synced ∧
      (Pipeline.run engine acts).synced ≤ (Pipeline.run engine acts).committed.length := by
  induction acts using List.reverseRecOn with
  | nil => exact ⟨Nat.le_refl _, Nat.le_refl _⟩
  | append_singleton acts a ih =>
    rw [Pipeline.run_snoc]
    cases a with
    | commit batch ingestedAt rows =>
      refine ⟨ih.1, ?_⟩
      simp only [Pipeline.step, List.length_append]
      omega
    | sync =>
      simp only [Pipeline.step]
      exact ⟨Nat.le_trans ih.1 ih.2, Nat.le_refl _⟩
    | build full =>
      by_cases hs : (Pipeline.run engine acts).Succeeds engine full
      · rw [Pipeline.step_succeeds hs]
        refine ⟨?_, ih.2⟩
        dsimp only
        split
        · exact ih.1
        · exact Nat.le_refl _
      · rwa [Pipeline.step_fails hs]

/-- What a successful build read stays read. -/
theorem synced_le_read (before after : List Act) (full : Bool)
    (hs : (Pipeline.run engine before).Succeeds engine full)
    (h : shownBatchIds engine (Pipeline.run engine before).catalog ≠ []) :
    (Pipeline.run engine before).synced ≤
      (Pipeline.run engine (before ++ Act.build full :: after)).read := by
  induction after using List.reverseRecOn with
  | nil => simp [Pipeline.run_snoc, Pipeline.step_succeeds hs, h]
  | append_singleton after a ih =>
    have hassoc : before ++ Act.build full :: (after ++ [a]) =
        (before ++ Act.build full :: after) ++ [a] := by simp
    rw [hassoc, Pipeline.run_snoc]
    cases a with
    | commit batch ingestedAt rows => simpa only [Pipeline.step] using ih
    | sync => simpa only [Pipeline.step] using ih
    | build full' =>
      by_cases hs' : (Pipeline.run engine (before ++ Act.build full :: after)).Succeeds engine full'
      · rw [Pipeline.step_succeeds hs']
        dsimp only
        split
        · exact ih
        · exact Nat.le_trans ih (read_le_synced_le engine _).1
      · rwa [Pipeline.step_fails hs']

/-- The object of a commit. -/
def Act.object : Act → Option BronzeObject
  | .commit batch ingestedAt rows => some (committedObject batch ingestedAt rows)
  | _ => none

/-- The committed objects are those of the commits, in order. -/
theorem committed_eq (acts : List Act) :
    (Pipeline.run engine acts).committed = acts.filterMap Act.object := by
  induction acts using List.reverseRecOn with
  | nil => rfl
  | append_singleton acts a ih =>
    rw [Pipeline.run_snoc, List.filterMap_append, ← ih]
    cases a with
    | commit batch ingestedAt rows => rfl
    | sync => simp [Pipeline.step, Act.object]
    | build full =>
      by_cases hs : (Pipeline.run engine acts).Succeeds engine full
      · simp [Pipeline.step_succeeds hs, Act.object]
      · simp [Pipeline.step_fails hs, Act.object]

/-- Every committed object has the id of a batch identity, so not the empty text. -/
theorem empty_lt_committed (acts : List Act) :
    ∀ o ∈ (Pipeline.run engine acts).committed, "" < o.batchId := by
  intro o ho
  rw [committed_eq] at ho
  obtain ⟨a, -, ha⟩ := List.mem_filterMap.1 ho
  cases a with
  | commit batch ingestedAt rows =>
    obtain rfl : committedObject batch ingestedAt rows = o := Option.some.inj ha
    exact batch.empty_lt_batchId
  | sync => cases ha
  | build full => cases ha

/-! ## Above the boundary is in the affected keys -/

variable {engine}

/-- A row carries the batch id of its object. -/
theorem batchId_of_landed {ρ : Type} {table : ObjectRows → List ρ} {o : BronzeObject}
    {r : Landed ρ} (h : r ∈ o.landed table) : r.batchId = o.batchId := by
  obtain ⟨r', -, rfl⟩ := List.mem_map.1 h
  rfl

/-- A present order something of which is new is affected: the six arms, each with the rows it
joins. -/
theorem orderAffected_of_present {d : Catalog} {bound k : String} (hpresent : OrderPresent d k)
    (h : ∀ o, o.row.orderId = k → OrderTouched engine d bound o) :
    orderAffected engine d bound k = true := by
  obtain ⟨o, ho⟩ := Option.ne_none_iff_exists'.1 hpresent
  obtain ⟨hmem, rfl⟩ := orderOf_mem ho
  exact orderAffected_of_touched hmem (h o rfl)

/-- The rows of an object above the boundary reach the affected keys. -/
theorem included_of_above {d : Catalog} {bound : String} {o : BronzeObject}
    (h : bound < o.batchId) : Included engine d bound o where
  orders r hr hcurrent := by
    rw [← batchId_of_landed hr] at h
    exact orderAffected_of_touched hcurrent (.inl h)
  -- each arm joins with the order, which has to be there
  orderItems r hr hstg hpresent := by
    rw [← batchId_of_landed hr] at h
    refine orderAffected_of_present hpresent fun so hso => ?_
    exact .inr (.inl ⟨r, mem_itemsOf.2 ⟨hstg, hso.symm⟩, h⟩)
  orderPayments r hr hstg hpresent := by
    rw [← batchId_of_landed hr] at h
    refine orderAffected_of_present hpresent fun so hso => ?_
    exact .inr (.inr (.inl ⟨r, mem_paymentsOf.2 ⟨hstg, hso.symm⟩, h⟩))
  products r hr hstg i hi hid hpresent := by
    rw [← batchId_of_landed hr] at h
    refine orderAffected_of_present hpresent fun so hso => ?_
    exact .inr (.inr (.inr (.inl ⟨i, mem_itemsOf.2 ⟨hi, hso.symm⟩, r, hstg, hid.symm, h⟩)))
  sellers r hr hstg i hi hid hpresent := by
    rw [← batchId_of_landed hr] at h
    refine orderAffected_of_present hpresent fun so hso => ?_
    exact .inr (.inr (.inr (.inr (.inl
      ⟨i, mem_itemsOf.2 ⟨hi, hso.symm⟩, r, hstg, hid.symm, h⟩))))
  -- an observation counts for the events from its own time on, on both axes
  tiers r hr hobs := by
    rw [← batchId_of_landed hr] at h
    refine ⟨fun so hso hid ht => ?_, fun p hp hid ht => ?_⟩
    · obtain ⟨row, hrow, rfl⟩ := List.mem_map.1 hso
      exact orderAffected_of_touched hrow
        (.inr (.inr (.inr (.inr (.inr ⟨r, hobs, h, hid, ht⟩)))))
    · exact paymentAffected_of_touched hp (.inr (.inr ⟨r, hobs, h, hid.symm, ht⟩))
  subscriptions r hr hobs p hp hid ht := by
    rw [← batchId_of_landed hr] at h
    exact paymentAffected_of_touched hp (.inr (.inl ⟨r, hobs, h, hid.symm, ht⟩))
  subscriptionPayments r hr hcurrent p hp := by
    rw [← batchId_of_landed hr] at h
    refine paymentAffected_of_touched (List.mem_filterMap.2 ⟨r, hcurrent, hp⟩) (.inl ?_)
    obtain ⟨s, -, rfl⟩ := Option.map_eq_some_iff.1 hp
    exact h

/-- One state: when no later object lies below what was shown, nothing is skipped. -/
theorem ShownBelow.nothingSkipped {acts : List Act} (h : ShownBelow engine acts) :
    NothingSkipped engine (Pipeline.run engine acts) := by
  intro o ho
  have habove : (Pipeline.run engine acts).mart.bound < o.batchId := by
    by_contra hnot
    rcases le_bound engine acts o.batchId (not_lt.1 hnot) with h₀ | ⟨before, after, full, b,
      rfl, hs, hb, hle⟩
    · exact absurd (empty_lt_committed engine acts o (List.mem_of_mem_drop ho)) (not_lt.2 h₀)
    · have hread := synced_le_read engine before after full hs (List.ne_nil_of_mem hb)
      have hlate := (List.drop_sublist_drop_left _ hread).subset ho
      exact absurd (h before after full rfl hs o hlate b hb) (not_lt.2 hle)
  exact ⟨habove, fun _ => included_of_above habove⟩

/-- A prefix of a run in which no later object lies below has that property too. -/
theorem ShownBelow.of_append {acts more : List Act} (h : ShownBelow engine (acts ++ more)) :
    ShownBelow engine acts := by
  rintro before after full rfl hs o ho b hb
  refine h before (after ++ more) full (by simp) hs o ?_ b hb
  rw [committed_eq, List.filterMap_append, ← committed_eq engine, List.drop_append]
  exact List.mem_append_left _ ho

/-- A build's ids lie below what is committed after its catalog, as long as no
state skips an object. -/
theorem shownBelow_of_nothingSkipped {before after : List Act} {full : Bool}
    (h : ∀ acts more, before ++ Act.build full :: after = acts ++ more →
      NothingSkipped engine (Pipeline.run engine acts))
    (hs : (Pipeline.run engine before).Succeeds engine full)
    {b : String} (hb : b ∈ shownBatchIds engine (Pipeline.run engine before).catalog) :
    b ≤ (Pipeline.run engine (before ++ Act.build full :: after)).mart.bound ∧
    ∀ o ∈ (Pipeline.run engine (before ++ Act.build full :: after)).committed.drop
      (Pipeline.run engine before).synced, b < o.batchId := by
  have hne : shownBatchIds engine (Pipeline.run engine before).catalog ≠ [] :=
    List.ne_nil_of_mem hb
  induction after using List.reverseRecOn with
  -- right after the build the boundary has reached `b`, and what it did not read is unread
  | nil =>
    have hbound : b ≤ (Pipeline.run engine (before ++ [Act.build full])).mart.bound := by
      rw [Pipeline.run_snoc, Pipeline.step_succeeds hs]
      exact (bound_build engine _ full _ b).2 (Or.inr ⟨b, hb, le_refl b⟩)
    refine ⟨hbound, fun o ho => ?_⟩
    refine lt_of_le_of_lt hbound (h (before ++ [Act.build full]) [] (by simp) o ?_).1
    rw [Pipeline.run_snoc, Pipeline.step_succeeds hs] at ho ⊢
    simpa [hne] using ho
  | append_singleton after a ih =>
    have hassoc : before ++ Act.build full :: (after ++ [a]) =
        (before ++ Act.build full :: after) ++ [a] := by simp
    obtain ⟨hbound, hold⟩ := ih fun acts more he =>
      h acts (more ++ [a]) (by rw [hassoc, he]; simp)
    -- the boundary never comes down, so it stays at or above `b`
    have hmono := bound_mono engine _ a b hbound
    rw [← Pipeline.run_snoc, ← hassoc] at hmono
    refine ⟨hmono, fun o ho => ?_⟩
    have hlen : (Pipeline.run engine before).synced ≤
        (Pipeline.run engine (before ++ Act.build full :: after)).committed.length :=
      Nat.le_trans (synced_le_read engine before after full hs hne)
        (Nat.le_trans (read_le_synced_le engine _).1 (read_le_synced_le engine _).2)
    rw [committed_eq, hassoc, List.filterMap_append, ← committed_eq engine,
      List.drop_append_of_le_length hlen] at ho
    rcases List.mem_append.1 ho with ho | ho
    · exact hold o ho
    · -- the object just committed is unread, and the boundary has passed `b`
      have hpos := read_le_synced_le engine (before ++ Act.build full :: after)
      refine lt_of_le_of_lt hmono (h _ [] (List.append_nil _).symm o ?_).1
      cases a with
      | commit batch ingestedAt rows =>
        rw [hassoc, Pipeline.run_snoc]
        simp only [Pipeline.step]
        rw [List.drop_append_of_le_length (Nat.le_trans hpos.1 hpos.2)]
        exact List.mem_append_right _ ho
      | sync => cases ho
      | build full' => cases ho

/-- In every state of a run nothing is skipped, exactly when every object committed after a
build's catalog lies above every batch id that build showed. -/
theorem shownBelow_iff (acts : List Act) :
    (∀ before after, acts = before ++ after →
      NothingSkipped engine (Pipeline.run engine before)) ↔ ShownBelow engine acts := by
  constructor
  · rintro h before after full rfl hs o ho b hb
    exact (shownBelow_of_nothingSkipped h hs hb).2 o ho
  · rintro h before after rfl
    exact h.of_append.nothingSkipped

/-- A shown batch id is that of a watched object. -/
theorem watched_of_shown {c : Catalog} {b : String} (h : b ∈ shownBatchIds engine c) :
    ∃ o ∈ c, o.Watched ∧ o.batchId = b := by
  -- a row of a table is in an object that holds rows of it
  have hobject : ∀ {ρ : Type} {table : ObjectRows → List ρ} {r : Landed ρ}, r ∈ c.rows table →
      ∃ o ∈ c, table o.rows ≠ [] ∧ o.batchId = r.batchId := by
    intro ρ table r hr
    obtain ⟨o, ho, hr⟩ := List.mem_flatMap.1 hr
    obtain ⟨r', hr', rfl⟩ := List.mem_map.1 hr
    exact ⟨o, ho, List.ne_nil_of_mem hr', rfl⟩
  unfold shownBatchIds at h
  simp only [List.mem_append, List.mem_map, or_assoc] at h
  rcases h with ⟨so, hso, rfl⟩ | ⟨i, hi, rfl⟩ | ⟨p, hp, rfl⟩ | ⟨r, hr, rfl⟩ | ⟨r, hr, rfl⟩ |
    ⟨v, hv, rfl⟩ | ⟨v, hv, rfl⟩ | ⟨p, hp, rfl⟩
  · obtain ⟨o, ho, rfl⟩ := List.mem_map.1 hso
    obtain ⟨x, hx, hne, hid⟩ := hobject (mem_of_current ho)
    exact ⟨x, hx, .inl hne, hid⟩
  · obtain ⟨x, hx, hne, hid⟩ := hobject (mem_of_current hi)
    exact ⟨x, hx, .inr (.inl hne), hid⟩
  · obtain ⟨x, hx, hne, hid⟩ := hobject (mem_of_current hp)
    exact ⟨x, hx, .inr (.inr (.inl hne)), hid⟩
  · obtain ⟨x, hx, hne, hid⟩ := hobject (mem_of_current hr)
    exact ⟨x, hx, .inr (.inr (.inr (.inl hne))), hid⟩
  · obtain ⟨x, hx, hne, hid⟩ := hobject (mem_of_current hr)
    exact ⟨x, hx, .inr (.inr (.inr (.inr (.inl hne)))), hid⟩
  · obtain ⟨x, hx, hne, hid⟩ := hobject (mem_of_current hv)
    exact ⟨x, hx, .inr (.inr (.inr (.inr (.inr (.inl hne))))), hid⟩
  · obtain ⟨x, hx, hne, hid⟩ := hobject (mem_of_current hv)
    exact ⟨x, hx, .inr (.inr (.inr (.inr (.inr (.inr (.inl hne)))))), hid⟩
  · obtain ⟨q, hq, hp⟩ := List.mem_filterMap.1 hp
    obtain ⟨s, -, rfl⟩ := Option.map_eq_some_iff.1 hp
    obtain ⟨x, hx, hne, hid⟩ := hobject (mem_of_current hq)
    exact ⟨x, hx, .inr (.inr (.inr (.inr (.inr (.inr (.inr hne)))))), hid⟩

/-- In a run whose later commits lie above what a successful build read, no state skips
an object. -/
theorem nothingSkipped_of_commitsAbove (engine : Engine) (acts : List Act)
    (h : CommitsAbove engine acts) :
    ∀ before after, acts = before ++ after →
      NothingSkipped engine (Pipeline.run engine before) := by
  refine (shownBelow_iff acts).2 fun before after full heq hs o ho b hb => ?_
  obtain ⟨shown, hshown, hwatched, rfl⟩ := watched_of_shown hb
  exact h before after full heq hs o ho shown hshown hwatched

/-! ## One DAG -/

variable (engine)

/-- The batch of a commit. -/
def Act.batch : Act → Option BatchIdentity
  | .commit batch _ _ => some batch
  | _ => none

/-- The batches of the commits, in order. -/
def batchesOf (acts : List Act) : List BatchIdentity := acts.filterMap Act.batch

/-- The batches committed after the next sync. -/
def afterSync : List Act → List BatchIdentity
  | [] => []
  | .sync :: acts => batchesOf acts
  | _ :: acts => afterSync acts

/-- What is committed after a sync is of a later second than what was committed before. -/
def HoursIncrease : List Act → Prop
  | [] => True
  | .commit batch _ _ :: acts =>
    (∀ later ∈ afterSync acts, secondOf batch.logicalDate < secondOf later.logicalDate) ∧
      HoursIncrease acts
  | _ :: acts => HoursIncrease acts

instance HoursIncrease.decidable : (acts : List Act) → Decidable (HoursIncrease acts)
  | [] => isTrue trivial
  | .commit batch _ _ :: acts =>
    have := HoursIncrease.decidable acts
    inferInstanceAs (Decidable
      ((∀ later ∈ afterSync acts, secondOf batch.logicalDate < secondOf later.logicalDate) ∧
        HoursIncrease acts))
  | .sync :: acts => HoursIncrease.decidable acts
  | .build _ :: acts => HoursIncrease.decidable acts

/-- All batches are of one DAG, of years with four digits, and logical dates increase
between what a build reads and what comes later. -/
structure OneDag (dagId : String) (acts : List Act) : Prop where
  batches : ∀ b ∈ batchesOf acts,
    b.dagId = dagId ∧ IsDatetime b.logicalDate ∧ 1000 ≤ yearOf b.logicalDate
  increase : HoursIncrease acts

/-- The batches behind a sync are behind the next sync. -/
theorem mem_afterSync {more : List Act} {b : BatchIdentity} (h : b ∈ batchesOf more) :
    ∀ acts : List Act, b ∈ afterSync (acts ++ Act.sync :: more)
  | [] => h
  | .commit _ _ _ :: acts => mem_afterSync h acts
  | .build _ :: acts => mem_afterSync h acts
  | .sync :: acts => by
    show b ∈ batchesOf (acts ++ Act.sync :: more)
    unfold batchesOf at h ⊢
    rw [List.filterMap_append]
    exact List.mem_append_right _ h

/-- A sync parts earlier batches from later ones. -/
theorem HoursIncrease.split {acts more : List Act} (h : HoursIncrease (acts ++ Act.sync :: more)) :
    ∀ b ∈ batchesOf acts, ∀ b' ∈ batchesOf more,
      secondOf b.logicalDate < secondOf b'.logicalDate := by
  induction acts with
  | nil => exact fun b hb => by cases hb
  | cons a acts ih =>
    cases a with
    | commit batch ingestedAt rows =>
      obtain ⟨hfirst, hrest⟩ := h
      intro b hb b' hb'
      have hcases : b ∈ batch :: batchesOf acts := hb
      rcases List.mem_cons.1 hcases with rfl | hb
      · exact hfirst b' (mem_afterSync hb' acts)
      · exact ih hrest b hb b' hb'
    | sync => exact ih h
    | build full => exact ih h

/-- The catalog of the build being prepared is what was committed before the last sync. -/
theorem catalog_cases (acts : List Act) :
    (Pipeline.run engine acts).synced = 0 ∨ ∃ earlier later,
      acts = earlier ++ Act.sync :: later ∧
      (Pipeline.run engine acts).synced = (earlier.filterMap Act.object).length := by
  induction acts using List.reverseRecOn with
  | nil => exact .inl rfl
  | append_singleton acts a ih =>
    -- an act that is no sync leaves the last one where it is
    have hkept : ((Pipeline.run engine acts).step engine a).synced =
        (Pipeline.run engine acts).synced →
        (Pipeline.run engine (acts ++ [a])).synced = 0 ∨ ∃ earlier later,
          acts ++ [a] = earlier ++ Act.sync :: later ∧
          (Pipeline.run engine (acts ++ [a])).synced = (earlier.filterMap Act.object).length := by
      intro hsame
      rw [Pipeline.run_snoc, hsame]
      rcases ih with hzero | ⟨earlier, later, heq, hlength⟩
      · exact .inl hzero
      · exact .inr ⟨earlier, later ++ [a], by rw [heq]; simp, hlength⟩
    cases a with
    | commit batch ingestedAt rows => exact hkept rfl
    | sync =>
      refine .inr ⟨acts, [], rfl, ?_⟩
      rw [Pipeline.run_snoc, ← committed_eq engine]
      rfl
    | build full =>
      refine hkept ?_
      by_cases hs : (Pipeline.run engine acts).Succeeds engine full
      · rw [Pipeline.step_succeeds hs]
      · rw [Pipeline.step_fails hs]

/-- A committed object has the id of a batch of the run. -/
theorem batch_of_object {acts : List Act} {o : BronzeObject} (h : o ∈ acts.filterMap Act.object) :
    ∃ b ∈ batchesOf acts, b.batchId = o.batchId := by
  obtain ⟨a, ha, ho⟩ := List.mem_filterMap.1 h
  cases a with
  | commit batch ingestedAt rows =>
    obtain rfl : committedObject batch ingestedAt rows = o := Option.some.inj ho
    exact ⟨batch, List.mem_filterMap.2 ⟨_, ha, rfl⟩, rfl⟩
  | sync => cases ho
  | build full => cases ho

/-- One DAG with increasing logical dates commits above what its builds read. -/
theorem commitsAbove_of_oneDag {dagId : String} {acts : List Act} (h : OneDag dagId acts) :
    CommitsAbove engine acts := by
  rintro before after full rfl - o ho shown hshown -
  unfold Pipeline.catalog at hshown
  rcases catalog_cases engine before with hzero | ⟨earlier, later, heq, hlength⟩
  · rw [hzero] at hshown
    cases hshown
  -- what the build sees was committed before its last sync, and the batch in question after it
  · have hacts : before ++ Act.build full :: after =
        earlier ++ Act.sync :: (later ++ Act.build full :: after) := by rw [heq]; simp
    rw [hacts] at h ho
    rw [committed_eq, heq, List.filterMap_append, ← heq, hlength, List.take_left'  rfl] at hshown
    rw [committed_eq, List.filterMap_append, hlength, List.drop_left' rfl] at ho
    obtain ⟨b, hb, hid⟩ := batch_of_object hshown
    obtain ⟨b', hb', hid'⟩ := batch_of_object ho
    have hlater : b' ∈ batchesOf (later ++ Act.build full :: after) := hb'
    -- all of them are batches of the one DAG, with logical dates of four-digit years
    have hall : ∀ x, x ∈ batchesOf earlier ∨
        x ∈ batchesOf (later ++ Act.build full :: after) → x.dagId = dagId ∧
          IsDatetime x.logicalDate ∧ 1000 ≤ yearOf x.logicalDate := by
      intro x hx
      refine h.batches x ?_
      unfold batchesOf at hx ⊢
      rw [List.filterMap_append]
      exact List.mem_append.2 hx
    obtain ⟨hdag, hdate, hyear⟩ := hall b (.inl hb)
    obtain ⟨hdag', hdate', hyear'⟩ := hall b' (.inr hlater)
    rw [← hid, ← hid']
    exact batchId_lt (hdag.trans hdag'.symm) hdate hdate' hyear hyear'
      (h.increase.split b hb b' hlater)

end Models

/-- An engine whose functions tell their arguments apart. -/
def textEngine : Engine := ⟨id, fun t => toString t⟩

def sampleCustomer (city : String) : CustomersRow := ⟨"c-1", "u-1", some city, none, 0⟩

/-- A tier observed at `updatedAt`. -/
def sampleTier (updatedAt : Timestamp) : CustomerMembershipTiersRow := ⟨"u-1", "GOLD", 0, updatedAt⟩

def sampleOrder (orderId status : String) (updatedAt : Timestamp) : OrdersRow :=
  ⟨orderId, "c-1", status, 5, none, none, none, none, updatedAt⟩

theorem ingest_named : Named 174 "ingest" := by decide

/-- Consecutive hours of the DAG `ingest`. -/
def firstHour : BatchIdentity := ⟨"ingest", 1704067200000000, ingest_named⟩

def secondHour : BatchIdentity := ⟨"ingest", 1704070800000000, ingest_named⟩

def thirdHour : BatchIdentity := ⟨"ingest", 1704074400000000, ingest_named⟩

/-- An order with its customer and tier, built. -/
private def builtHour : List Act := [
  .commit firstHour 1 (.customers [sampleCustomer "sp"]),
  .commit firstHour 1 (.customerMembershipTiers [sampleTier 1]),
  .commit firstHour 1 (.orders [sampleOrder "o-1" "created" 5]), .sync, .build false]

/-- Two hours are built; a batch of the third is committed between a sync and its build. -/
private def threeHours : List Act := builtHour ++ [
  .commit secondHour 2 (.orders [sampleOrder "o-1" "approved" 6]), .sync,
  .commit thirdHour 3 (.orders [sampleOrder "o-2" "created" 7]), .build false]

private theorem threeHours_oneDag : OneDag "ingest" threeHours :=
  ⟨by unfold IsDatetime; decide, by decide⟩

/-- The hours are built, up to the object committed after the last sync. -/
theorem nothingSkipped_of_commitsAbove_hours :
    (Pipeline.run textEngine threeHours).read = 4 ∧
      ∀ before after, threeHours = before ++ after →
        NothingSkipped textEngine (Pipeline.run textEngine before) :=
  ⟨by decide +kernel, nothingSkipped_of_commitsAbove textEngine threeHours
    (commitsAbove_of_oneDag textEngine threeHours_oneDag)⟩

private theorem backfill_named : Named 174 "backfill" := by decide

/-- The hour is built; the documented recovery then extracts its order again under the DAG
id `backfill`. The batch id sorts below the boundary. -/
private def reextraction : List Act := builtHour ++ [
  .commit ⟨"backfill", 1704070800000000, backfill_named⟩ 2
    (.orders [sampleOrder "o-1" "approved" 6])]

theorem nothingSkipped_false :
    ¬ ∀ (engine : Engine) (acts : List Act), NothingSkipped engine (Pipeline.run engine acts) := by
  intro h
  have hunread : (Pipeline.run textEngine reextraction).committed.drop
      (Pipeline.run textEngine reextraction).read =
      [committedObject ⟨"backfill", 1704070800000000, backfill_named⟩ 2
        (.orders [sampleOrder "o-1" "approved" 6])] := by
    have hread : (Pipeline.run textEngine reextraction).read = 3 := by decide +kernel
    rw [hread, committed_eq]
    rfl
  have hskipped := (h textEngine reextraction _ (hunread ▸ List.mem_cons_self)).1
  revert hskipped
  decide +kernel

end CommercePlatform.Warehouse
