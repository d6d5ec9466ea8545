/-!
# Exceptions

A Python call either returns or raises; here it returns an `Except Raised`. An exception
is its class and its message. A database transaction that raises is rolled back, so a
transaction is a function `Db → Except Raised Db` and an error carries no state.

The classes are those the modelled code raises or tells apart in an `except`. Where a
handler reads a field of an exception (the error type of a build that failed, the status
of a storage response) the field is part of the class; tracebacks, causes and notes are
not modelled.

`require` is the shape of a check, `if not p: raise e`; its lemma turns a sequence of
checks that returned into the conditions they checked (`require_eq_ok`, `bind_eq_ok`),
which is how the specifications of all transactions are proved. The checks of
`_assert_nonempty` and `_assert_sha256` are here too, since every dataclass of the
source uses them.

Mirroring notes vs the source:
- `isBlank` follows `str.strip`, which removes the white space of Unicode.
- A message is the text the source raises with; where a message holds a `repr` or the
  text of an exception of a library it is built from the parts the model has.
-/

namespace CommercePlatform

/-- The exception classes the modelled code raises or tells apart, with the fields its handlers
read. -/
inductive ErrorClass where
  | valueError
  | typeError
  | runtimeError
  | fileExistsError
  /-- `psycopg.errors.UniqueViolation`: a primary key or `UNIQUE` value is taken. -/
  | uniqueViolation
  /-- `psycopg.errors.StringDataRightTruncation`: a text exceeds its `VARCHAR(n)`. -/
  | stringDataRightTruncation
  /-- `psycopg.errors.CheckViolation`: a row breaks a `CHECK` constraint. -/
  | checkViolation
  /-- `psycopg.OperationalError`: the connection is lost or refused. -/
  | operationalError
  | connectionError
  | timeoutError
  | fileNotFoundError
  | osError
  /-- `botocore.exceptions.ClientError` with its HTTP status, if it has one. -/
  | clientError (httpStatus : Option Nat)
  | botoCoreError
  | watermarkConflictError
  | watermarkRewindError
  | leaseUnavailableError
  | leaseOwnershipLostError
  | tableLeaseOwnershipLostError
  | tableLeaseUnavailableError
  | sourceCursorRegressionError
  /-- `SourceContractError` of `contract/schema.py`. -/
  | bronzeSchemaContractError
  /-- `SourceContractError` of `extraction/validation.py`. -/
  | batchValidationContractError
  | rejectRateExceededError
  | bronzeCommitVerificationError
  | batchIdentityConflictError
  | pipelineRunStateError
  | orphanReconciliationError
  | warehouseBuildError (errorType : String)
  | publishedWalError
  | publishInProgressError
  | publishStateError
  /-- Any other exception. -/
  | otherException
deriving DecidableEq, Repr

/-- A raised exception. -/
structure Raised where
  cls : ErrorClass
  message : String
deriving DecidableEq, Repr

/-- A computation that continues with `f` returns when both parts do, the second from what the
first returned. -/
theorem bind_eq_ok {α β : Type} {x : Except Raised α} {f : α → Except Raised β} {b : β} :
    (x >>= f) = .ok b ↔ ∃ a, x = .ok a ∧ f a = .ok b := by
  cases x with
  | error e => simp [bind, Except.bind]
  | ok a => simp [bind, Except.bind]

/-- `if not p: raise e`. -/
def require (p : Prop) [Decidable p] (e : Raised) : Except Raised Unit :=
  if p then .ok () else .error e

theorem require_eq_ok {p : Prop} [Decidable p] {e : Raised} {u : Unit} :
    require p e = .ok u ↔ p := by
  unfold require
  split <;> simp_all

/-- White space as `str.strip` removes it. -/
def isSpace (c : Char) : Bool :=
  let n := c.toNat
  (9 ≤ n && n ≤ 13) || (28 ≤ n && n ≤ 32) || n == 0x85 || n == 0xA0 || n == 0x1680
    || (0x2000 ≤ n && n ≤ 0x200A) || n == 0x2028 || n == 0x2029 || n == 0x202F
    || n == 0x205F || n == 0x3000

/-- `sys.int_info.default_max_str_digits`. -/
def maxStrDigits : Nat := 4300

/-- `not value or not value.strip()`. -/
def isBlank (value : String) : Bool := value.toList.all isSpace

/-- What `_assert_nonempty(value, name, maximum_length)` lets through. -/
def Named (maximumLength : Nat) (value : String) : Prop :=
  isBlank value = false ∧ value.length ≤ maximumLength

instance (n : Nat) (value : String) : Decidable (Named n value) :=
  inferInstanceAs (Decidable (_ ∧ _))

/-- `_assert_nonempty`: the text is not blank and fits its column, with the two messages of the
source. -/
def assertNonempty (value name : String) (maximumLength : Nat) : Except Raised Unit := do
  require (isBlank value = false) ⟨.valueError, name ++ " must not be empty"⟩
  require (value.length ≤ maximumLength)
    ⟨.valueError, name ++ " must contain at most " ++ toString maximumLength ++ " characters"⟩

theorem assertNonempty_eq_ok {value name : String} {n : Nat} {u : Unit} :
    assertNonempty value name n = .ok u ↔ Named n value := by
  simp only [assertNonempty, bind_eq_ok, require_eq_ok, Named, exists_const]

/-- What `_assert_sha256` lets through: 64 lowercase hexadecimal digits. -/
def IsSha256 (value : String) : Prop :=
  value.length = 64 ∧ value.toList.all (fun c => "0123456789abcdef".toList.contains c)

instance (value : String) : Decidable (IsSha256 value) :=
  inferInstanceAs (Decidable (_ ∧ _))

end CommercePlatform
