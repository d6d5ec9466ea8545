import CommercePlatform.Common.Raised
/-!
# The nine source tables

`src/ingestion/contract/tables.py` and `contract/schema.py`: for every source table its
primary key, its composite cursor and its columns. The checks of
`TableConfig.__post_init__` are fields of the structure, so the nine values below are
checked when they are built and a configuration that breaks a rule cannot be written
down.

A cursor is the timestamp column followed by the primary key, in the order of the key;
`cursorColumns` is that list. Everything that orders rows, the pages of an extraction,
the watermark of a table, the bound of a rewind, orders by it.

Mirroring notes vs the source:
- `status_domains` and `numeric_minimums` are mappings; here they are lists of pairs in
  the order of the source, and a `frozenset` is the list of its values.
- `append_only` is kept although only the validation reads it; the technical columns of
  a Bronze file are in `Bronze/LogicalHash`.
- `table_config` raises `ValueError` for another name, with the text of the source.
-/

namespace CommercePlatform

/-- The Arrow type of a source column. -/
inductive ColumnType where
  | string
  | int32
  | bool
  /-- `timestamp("us", tz="UTC")` -/
  | timestampUs
  /-- `decimal128(14, 2)` -/
  | decimal
deriving DecidableEq, Repr

/-- `SourceColumn`. -/
structure SourceColumn where
  name : String
  type : ColumnType
  nullable : Bool
  postgresUuid : Bool
deriving DecidableEq, Repr

/-- `BRONZE_SCHEMA_VERSION`. -/
def bronzeSchemaVersion : Nat := 3

/-- `SUPPORTED_BRONZE_SCHEMA_VERSIONS`. -/
def supportedBronzeSchemaVersions : List Nat := [3]

/-- `TableConfig`: the incremental extraction contract of one source table, with the rules of
`__post_init__` as fields. -/
structure TableConfig where
  sourceTable : String
  primaryKeyColumns : List String
  cursorTimestampColumn : String
  cursorKeyColumns : List String
  sourceColumns : List SourceColumn
  statusDomains : List (String × List String)
  numericMinimums : List (String × Int)
  appendOnly : Bool
  schemaVersion : Nat
  named : isBlank sourceTable = false
  keyed : primaryKeyColumns ≠ []
  cursorIsKey : primaryKeyColumns = cursorKeyColumns
  supported : schemaVersion ∈ supportedBronzeSchemaVersions
  columnsUnique : (sourceColumns.map SourceColumn.name).Nodup
  cursorColumnsExist :
    ∀ c ∈ cursorTimestampColumn :: primaryKeyColumns, c ∈ sourceColumns.map SourceColumn.name
  validationColumnsExist :
    ∀ c ∈ statusDomains.map (·.1) ++ numericMinimums.map (·.1),
      c ∈ sourceColumns.map SourceColumn.name

/-- `cursor_columns`. -/
def TableConfig.cursorColumns (c : TableConfig) : List String :=
  c.cursorTimestampColumn :: c.cursorKeyColumns

private def text (name : String) (nullable : Bool) : SourceColumn := ⟨name, .string, nullable, false⟩

private def uuid (name : String) (nullable : Bool) : SourceColumn := ⟨name, .string, nullable, true⟩

private def integer (name : String) (nullable : Bool) : SourceColumn := ⟨name, .int32, nullable, false⟩

private def boolean (name : String) (nullable : Bool) : SourceColumn := ⟨name, .bool, nullable, false⟩

private def timestamp (name : String) (nullable : Bool) : SourceColumn :=
  ⟨name, .timestampUs, nullable, false⟩

private def decimal (name : String) (nullable : Bool) : SourceColumn :=
  ⟨name, .decimal, nullable, false⟩

def customersTable : TableConfig where
  sourceTable := "customers"
  primaryKeyColumns := ["customer_id"]
  cursorTimestampColumn := "created_at"
  cursorKeyColumns := ["customer_id"]
  sourceColumns := [
    text "customer_id" false,
    text "customer_unique_id" false,
    text "customer_city" true,
    text "customer_state" true,
    timestamp "created_at" false]
  statusDomains := []
  numericMinimums := []
  appendOnly := false
  schemaVersion := bronzeSchemaVersion
  named := by decide
  keyed := by decide
  cursorIsKey := rfl
  supported := by decide
  columnsUnique := by decide
  cursorColumnsExist := by decide
  validationColumnsExist := by decide

def customerSubscriptionsTable : TableConfig where
  sourceTable := "customer_subscriptions"
  primaryKeyColumns := ["subscription_id"]
  cursorTimestampColumn := "updated_at"
  cursorKeyColumns := ["subscription_id"]
  sourceColumns := [
    uuid "subscription_id" false,
    text "customer_unique_id" false,
    text "subscription_status" false,
    boolean "auto_renew_enabled" false,
    timestamp "subscription_started_at" false,
    timestamp "current_period_started_at" true,
    timestamp "current_period_ends_at" true,
    timestamp "billing_due_at" true,
    timestamp "next_payment_attempt_at" true,
    timestamp "payment_failed_at" true,
    timestamp "cancel_requested_at" true,
    timestamp "ended_at" true,
    timestamp "status_changed_at" false,
    timestamp "created_at" false,
    timestamp "updated_at" false]
  statusDomains := [
    ("subscription_status", ["ACTIVE", "PAYMENT_FAILED", "CANCEL_REQUESTED", "CHURNED"])]
  numericMinimums := []
  appendOnly := false
  schemaVersion := bronzeSchemaVersion
  named := by decide
  keyed := by decide
  cursorIsKey := rfl
  supported := by decide
  columnsUnique := by decide
  cursorColumnsExist := by decide
  validationColumnsExist := by decide

def customerMembershipTiersTable : TableConfig where
  sourceTable := "customer_membership_tiers"
  primaryKeyColumns := ["customer_unique_id"]
  cursorTimestampColumn := "updated_at"
  cursorKeyColumns := ["customer_unique_id"]
  sourceColumns := [
    text "customer_unique_id" false,
    text "membership_tier" false,
    timestamp "created_at" false,
    timestamp "updated_at" false]
  statusDomains := [("membership_tier", ["BRONZE", "SILVER", "GOLD"])]
  numericMinimums := []
  appendOnly := false
  schemaVersion := bronzeSchemaVersion
  named := by decide
  keyed := by decide
  cursorIsKey := rfl
  supported := by decide
  columnsUnique := by decide
  cursorColumnsExist := by decide
  validationColumnsExist := by decide

def subscriptionPaymentsTable : TableConfig where
  sourceTable := "subscription_payments"
  primaryKeyColumns := ["payment_id"]
  cursorTimestampColumn := "updated_at"
  cursorKeyColumns := ["payment_id"]
  sourceColumns := [
    uuid "payment_id" false,
    uuid "subscription_id" false,
    integer "billing_cycle_sequence" false,
    integer "attempt_sequence" false,
    text "payment_status" false,
    timestamp "payment_at" false,
    decimal "payment_value" false,
    text "currency_code" false,
    timestamp "billing_period_start_at" false,
    timestamp "billing_period_end_at" false,
    text "payment_method_type" true,
    text "payment_provider" true,
    text "provider_payment_id" true,
    text "failure_code" true,
    timestamp "created_at" false,
    timestamp "updated_at" false]
  statusDomains := [("payment_status", ["completed", "failed"])]
  numericMinimums := [
    ("billing_cycle_sequence", 1), ("attempt_sequence", 1), ("payment_value", 0)]
  appendOnly := true
  schemaVersion := bronzeSchemaVersion
  named := by decide
  keyed := by decide
  cursorIsKey := rfl
  supported := by decide
  columnsUnique := by decide
  cursorColumnsExist := by decide
  validationColumnsExist := by decide

def productsTable : TableConfig where
  sourceTable := "products"
  primaryKeyColumns := ["product_id"]
  cursorTimestampColumn := "updated_at"
  cursorKeyColumns := ["product_id"]
  sourceColumns := [
    text "product_id" false,
    text "product_category_name" true,
    integer "product_weight_g" true,
    integer "product_length_cm" true,
    integer "product_height_cm" true,
    integer "product_width_cm" true,
    timestamp "created_at" false,
    timestamp "updated_at" false]
  statusDomains := []
  numericMinimums := []
  appendOnly := false
  schemaVersion := bronzeSchemaVersion
  named := by decide
  keyed := by decide
  cursorIsKey := rfl
  supported := by decide
  columnsUnique := by decide
  cursorColumnsExist := by decide
  validationColumnsExist := by decide

def sellersTable : TableConfig where
  sourceTable := "sellers"
  primaryKeyColumns := ["seller_id"]
  cursorTimestampColumn := "updated_at"
  cursorKeyColumns := ["seller_id"]
  sourceColumns := [
    text "seller_id" false,
    text "seller_city" true,
    text "seller_state" true,
    timestamp "created_at" false,
    timestamp "updated_at" false]
  statusDomains := []
  numericMinimums := []
  appendOnly := false
  schemaVersion := bronzeSchemaVersion
  named := by decide
  keyed := by decide
  cursorIsKey := rfl
  supported := by decide
  columnsUnique := by decide
  cursorColumnsExist := by decide
  validationColumnsExist := by decide

def ordersTable : TableConfig where
  sourceTable := "orders"
  primaryKeyColumns := ["order_id"]
  cursorTimestampColumn := "updated_at"
  cursorKeyColumns := ["order_id"]
  sourceColumns := [
    text "order_id" false,
    text "customer_id" false,
    text "order_status" false,
    timestamp "order_purchase_timestamp" false,
    timestamp "order_approved_at" true,
    timestamp "order_delivered_carrier_date" true,
    timestamp "order_delivered_customer_date" true,
    timestamp "order_estimated_delivery_date" true,
    timestamp "created_at" false,
    timestamp "updated_at" false]
  statusDomains := [
    ("order_status", ["created", "approved", "processing", "invoiced", "shipped", "delivered",
      "canceled", "unavailable"])]
  numericMinimums := []
  appendOnly := false
  schemaVersion := bronzeSchemaVersion
  named := by decide
  keyed := by decide
  cursorIsKey := rfl
  supported := by decide
  columnsUnique := by decide
  cursorColumnsExist := by decide
  validationColumnsExist := by decide

def orderItemsTable : TableConfig where
  sourceTable := "order_items"
  primaryKeyColumns := ["order_id", "order_item_id"]
  cursorTimestampColumn := "created_at"
  cursorKeyColumns := ["order_id", "order_item_id"]
  sourceColumns := [
    text "order_id" false,
    integer "order_item_id" false,
    text "product_id" false,
    text "seller_id" false,
    timestamp "shipping_limit_date" false,
    decimal "price" false,
    decimal "freight_value" false,
    timestamp "created_at" false]
  statusDomains := []
  numericMinimums := [("order_item_id", 1), ("price", 0), ("freight_value", 0)]
  appendOnly := true
  schemaVersion := bronzeSchemaVersion
  named := by decide
  keyed := by decide
  cursorIsKey := rfl
  supported := by decide
  columnsUnique := by decide
  cursorColumnsExist := by decide
  validationColumnsExist := by decide

def orderPaymentsTable : TableConfig where
  sourceTable := "order_payments"
  primaryKeyColumns := ["order_id", "payment_sequential"]
  cursorTimestampColumn := "updated_at"
  cursorKeyColumns := ["order_id", "payment_sequential"]
  sourceColumns := [
    text "order_id" false,
    integer "payment_sequential" false,
    text "payment_type" false,
    integer "payment_installments" true,
    decimal "payment_value" false,
    text "payment_status" false,
    timestamp "payment_initiated_at" true,
    timestamp "payment_completed_at" true,
    timestamp "payment_failed_at" true,
    timestamp "payment_refunded_at" true,
    timestamp "created_at" false,
    timestamp "updated_at" false]
  statusDomains := [("payment_status", ["pending", "completed", "failed", "refunded"])]
  numericMinimums := [("payment_sequential", 1), ("payment_installments", 0), ("payment_value", 0)]
  appendOnly := false
  schemaVersion := bronzeSchemaVersion
  named := by decide
  keyed := by decide
  cursorIsKey := rfl
  supported := by decide
  columnsUnique := by decide
  cursorColumnsExist := by decide
  validationColumnsExist := by decide

/-- `TABLE_CONFIGS`, in its order. -/
def tableConfigs : List TableConfig := [
  customersTable, customerSubscriptionsTable, customerMembershipTiersTable,
  subscriptionPaymentsTable, productsTable, sellersTable, ordersTable, orderItemsTable,
  orderPaymentsTable]

/-- `table_config`: the configuration under this name, or `ValueError`. -/
def tableConfig (sourceTable : String) : Except Raised TableConfig :=
  match tableConfigs.find? (fun c => c.sourceTable = sourceTable) with
  | some config => .ok config
  | none => .error ⟨.valueError, "Unsupported source table: " ++ sourceTable⟩

end CommercePlatform
