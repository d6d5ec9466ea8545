import CommercePlatform.Common.Raised
/-!
# Error types

`src/ingestion/errors.py`: the error type recorded for an exception, and whether a
failure of that type may be retried. `classify_error` asks for classes in a fixed order,
so a subclass is caught by the first class in the order it belongs to; the model asks in
the same order.

Mirroring notes vs the source:
- An exception is its class and its message (`Common/Raised`); `isinstance` is a test of
  the class. No class of the model is a subclass of another one the function asks for
  later, but for those of the library that stand under one name there.
- The fields a handler reads of an exception are part of its class: the error type of a
  `WarehouseBuildError`, and the HTTP status in the response of a `ClientError`.
- `_object_storage_http_status` reads the response defensively; without a status the
  failure is not retryable, as `None in {…}` is false.
-/

namespace CommercePlatform

def sourceConnectionError : String := "SOURCE_CONNECTION_ERROR"
def leaseUnavailable : String := "LEASE_UNAVAILABLE"
def configurationError : String := "CONFIGURATION_ERROR"
def sourceContractError : String := "SOURCE_CONTRACT_ERROR"
def validationThresholdExceeded : String := "VALIDATION_THRESHOLD_EXCEEDED"
def objectVerificationError : String := "OBJECT_VERIFICATION_ERROR"
def watermarkConflict : String := "WATERMARK_CONFLICT"
def batchIdentityConflict : String := "BATCH_IDENTITY_CONFLICT"
def leaseOwnershipLost : String := "LEASE_OWNERSHIP_LOST"
def objectStorageError : String := "OBJECT_STORAGE_ERROR"
def dbtBuildError : String := "DBT_BUILD_ERROR"
def dbtTestError : String := "DBT_TEST_ERROR"
def unknownError : String := "UNKNOWN_ERROR"

/-- `classify_error`: the classes in the order of the source, the first that matches decides. -/
def classifyError (e : Raised) : String :=
  match e.cls with
  | .leaseUnavailableError | .tableLeaseUnavailableError | .publishInProgressError =>
    leaseUnavailable
  | .leaseOwnershipLostError | .tableLeaseOwnershipLostError => leaseOwnershipLost
  | .operationalError | .connectionError | .timeoutError => sourceConnectionError
  | .bronzeSchemaContractError | .batchValidationContractError | .sourceCursorRegressionError =>
    sourceContractError
  | .rejectRateExceededError => validationThresholdExceeded
  | .bronzeCommitVerificationError => objectVerificationError
  | .watermarkConflictError => watermarkConflict
  | .batchIdentityConflictError => batchIdentityConflict
  | .warehouseBuildError errorType => errorType
  | .publishedWalError => configurationError
  | .clientError _ | .botoCoreError => objectStorageError
  | _ => unknownError

/-- `_object_storage_http_status`. -/
def objectStorageHttpStatus (e : Raised) : Option Nat :=
  match e.cls with
  | .clientError status => status
  | _ => none

/-- `_RETRYABLE_HTTP_STATUS`: 429 and 500 to 599. -/
def retryableHttpStatus (status : Nat) : Bool := status == 429 || (500 ≤ status && status < 600)

/-- `is_retryable`. A storage error is decided by its HTTP status and not by its type, since one
type covers statuses of both kinds. -/
def isRetryable (e : Raised) : Bool :=
  if classifyError e = objectStorageError then
    (objectStorageHttpStatus e).any retryableHttpStatus
  else classifyError e = sourceConnectionError ∨ classifyError e = leaseUnavailable

end CommercePlatform
