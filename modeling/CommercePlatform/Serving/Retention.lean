import CommercePlatform.Common.Raised
import CommercePlatform.Lib.Machine
import Mathlib.Data.List.Sort
/-!
# Retention of the serving exports

`src/serving/metabase_repoint.py`. Every export leaves a versioned file
`exports/{export_id}.duckdb`; a repoint stores the path of one of them in the Metabase
database connection; a pruning keeps the three files that were modified last. The DAG
and the CLI call these in any order, and a repoint may be asked for an old export, fail
before or after Metabase stored the path, or be skipped.

`ReadsExisting` says that the versioned file the connection is configured to read is
there: what ADR-019 has the retention for. One call keeps it exactly under
`ServingCall.Meets`, so

> `servingRetention_iff`: in every run, the file in use is there in all states iff each
> call meets its condition.

The condition is the obvious one. A path that Metabase stores has to name an export that
is there, and when a pruning runs, the file the connection names has to be among the
three newest. Nothing in the code sees to the second part: `prune_serving_exports` goes
by the modification times alone and never asks what the connection names. A repoint that
failed and is retried three exports later succeeds, and its own pruning removes the file
it has just put in use (`servingRetention_false`).

How the source is mirrored:

- a request to Metabase is an answer or an exception (`MetabaseAnswers`); the members of
  `_API_ERRORS` are told apart from what no handler catches. A `PUT` that raised may
  have been stored;
- `int(database_id)` is `isInteger`, over the decimal digits of every script, since the
  setting is a text of the environment. What it raises is one of `_API_ERRORS`;
- `glob` lists the directory in any order and `sorted` is stable, so files of one
  modification time are kept as they were listed. `Listed` allows every order;
- an export that raised is a call that changes nothing, by `Serving.ExportFailure` up to
  its directory syncs;
- an `unlink` that raises part-way through a pruning is not modelled.
-/

namespace CommercePlatform.Serving

open Lib

/-- A file of the exports directory, with its `st_mtime_ns`. -/
structure ExportFile where
  exportId : String
  mtimeNs : Nat
deriving DecidableEq, Repr

/-- The exports directory and the `database_file` of the Metabase connection. -/
structure ServingState where
  exports : List ExportFile
  databaseFile : String

/-- `f"/serving/exports/{export_id}.duckdb"`. -/
def exportPath (exportId : String) : String := "/serving/exports/" ++ exportId ++ ".duckdb"

/-- The versioned file the connection is configured to read exists. A connection that names no
versioned file reads none. -/
def ReadsExisting (s : ServingState) : Prop :=
  ∀ exportId, s.databaseFile = exportPath exportId → ∃ f ∈ s.exports, f.exportId = exportId

/-- `SERVING_EXPORT_RETENTION`: how many exports a pruning keeps. -/
def servingExportRetention : Nat := 3

/-- Latest modification first; `sorted` is stable, so files of one modification time stay in the
order of the listing. -/
def LaterFile (a b : ExportFile) : Prop := b.mtimeNs ≤ a.mtimeNs

instance : DecidableRel LaterFile := fun _ _ => inferInstanceAs (Decidable (_ ≤ _))

/-- `versions[:keep]` of the directory in the order `glob` lists it. -/
def newestExports (listing : List ExportFile) : List ExportFile :=
  (listing.insertionSort LaterFile).take servingExportRetention

/-- `prune_serving_exports`, where every `unlink` and the `fsync` succeed. An `unlink` or
`fsync` that raises part-way is not modelled: it leaves some of the files that are dropped
here, and no other difference. -/
def pruneServingExports (listing : List ExportFile) (s : ServingState) : ServingState :=
  { s with exports := newestExports listing }

/-- What a request to Metabase may raise: the members of `_API_ERRORS`, or something
else that no handler catches. -/
inductive RequestError where
  | httpError (code : Nat)
  | urlError
  | osError
  | httpException
  | valueError
  | typeError
  | keyError
  | other
deriving DecidableEq, Repr

/-- The exception is one of `_API_ERRORS`. -/
def RequestError.isApiError : RequestError → Bool
  | .other => false
  | _ => true

/-- A `PUT` that answers was stored; one that raises may have been. -/
inductive PutOutcome where
  | answered
  | raised (stored : Bool) (e : RequestError)
deriving DecidableEq, Repr

def PutOutcome.stored : PutOutcome → Bool
  | .answered => true
  | .raised stored _ => stored

/-- How Metabase answers the four requests of a repoint, in their order: the details,
the `PUT`, the live manifest with its `export_id`, the schema sync. -/
structure MetabaseAnswers where
  get : Except RequestError Unit
  put : PutOutcome
  liveExportId : Except RequestError String
  sync : Except RequestError Unit

/-- The three settings of a repoint. -/
structure MetabaseSettings where
  url : String
  apiKey : String
  databaseId : String

/-- `all((metabase_url, api_key, database_id))`. -/
def MetabaseSettings.Complete (m : MetabaseSettings) : Prop :=
  m.url ≠ "" ∧ m.apiKey ≠ "" ∧ m.databaseId ≠ ""

instance (m : MetabaseSettings) : Decidable m.Complete :=
  inferInstanceAs (Decidable (_ ∧ _ ∧ _))

/-- The zeros of Unicode 15.0; the digits one to nine stand right behind each. -/
def decimalZeros : List Nat :=
  [0x30, 0x660, 0x6F0, 0x7C0, 0x966, 0x9E6, 0xA66, 0xAE6, 0xB66, 0xBE6, 0xC66, 0xCE6, 0xD66,
    0xDE6, 0xE50, 0xED0, 0xF20, 0x1040, 0x1090, 0x17E0, 0x1810, 0x1946, 0x19D0, 0x1A80, 0x1A90,
    0x1B50, 0x1BB0, 0x1C40, 0x1C50, 0xA620, 0xA8D0, 0xA900, 0xA9D0, 0xA9F0, 0xAA50, 0xABF0,
    0xFF10, 0x104A0, 0x10D30, 0x11066, 0x110F0, 0x11136, 0x111D0, 0x112F0, 0x11450, 0x114D0,
    0x11650, 0x116C0, 0x11730, 0x118E0, 0x11950, 0x11C50, 0x11D50, 0x11DA0, 0x11F50, 0x16A60,
    0x16AC0, 0x16B50, 0x1D7CE, 0x1D7D8, 0x1D7E2, 0x1D7EC, 0x1D7F6, 0x1E140, 0x1E2F0, 0x1E4F0,
    0x1E950, 0x1FBF0]

/-- A character with a decimal value (category `Nd`), of any script. -/
def isDecimal (c : Char) : Bool :=
  decimalZeros.any fun first => first ≤ c.toNat && c.toNat < first + 10

/-- What `int` strips. In ASCII these are the six blanks of C; the separators from 28 to 31,
which `str.isspace` also counts, are none of them. -/
def isIntSpace (c : Char) : Bool :=
  if c.toNat < 0x80 then (9 ≤ c.toNat && c.toNat ≤ 13) || c.toNat = 32 else isSpace c

/-- `int(text)` returns: blanks around it, a sign, decimal digits with single underscores between
them, and no more of them than the interpreter converts. The digits may be of any script and
of several. -/
def isInteger (text : String) : Bool :=
  let body := ((text.toList.dropWhile isIntSpace).reverse.dropWhile isIntSpace).reverse
  let digits := match body with
    | '-' :: rest | '+' :: rest => rest
    | rest => rest
  let groups := digits.splitOn '_'
  (groups.all fun group => group != [] && group.all isDecimal) && groups.flatten.length ≤ maxStrDigits

example : isInteger " +1_０" = true ∧ isInteger "1__0" = false := by decide

inductive RepointStatus where
  | success
  | skipped
  | failed
deriving DecidableEq, Repr

/-- The handlers `except _API_ERRORS`: report `FAILED`. -/
def reportFailed (e : RequestError) : Except RequestError RepointStatus :=
  if e.isApiError then .ok .failed else .error e

/-- `database["details"]["database_file"] = …`, stored. -/
def ServingState.point (s : ServingState) (exportId : String) : ServingState :=
  { s with databaseFile := exportPath exportId }

/-- What follows a `PUT` that answered: the manifest Metabase reads now has to be the one of the
export. A failed schema sync is reported and changes nothing. -/
def checkLiveManifest (answers : MetabaseAnswers) (exportId : String) :
    Except RequestError RepointStatus :=
  match answers.liveExportId with
  | .error e => reportFailed e
  | .ok live =>
    if live ≠ exportId then .ok .failed
    else
      match answers.sync with
      | .error e => if e.isApiError then .ok .success else .error e
      | .ok () => .ok .success

/-- `repoint_metabase_serving`: the status, and whether the path was stored on the way. Both
failures before the `PUT` leave the connection. -/
def repointMetabaseServing (answers : MetabaseAnswers) (exportId : String)
    (settings : MetabaseSettings) (s : ServingState) :
    Except RequestError RepointStatus × ServingState :=
  if ¬ settings.Complete then (.ok .skipped, s)
  else if isInteger settings.databaseId then
    match answers.get with
    | .error e => (reportFailed e, s)
    | .ok () =>
      match answers.put with
      | .answered => (checkLiveManifest answers exportId, s.point exportId)
      | .raised stored e => (reportFailed e, if stored then s.point exportId else s)
  else (.ok .failed, s)

/-- `repoint_and_prune_serving`; `listing` is what `glob` lists if it prunes. A skipped repoint
prunes as well. -/
def repointAndPruneServing (answers : MetabaseAnswers) (exportId : String)
    (settings : MetabaseSettings) (listing : List ExportFile) (s : ServingState) :
    Except RequestError RepointStatus × ServingState :=
  match repointMetabaseServing answers exportId settings s with
  | (.ok .success, s) => (.ok .success, pruneServingExports listing s)
  | (.ok .skipped, s) => (.ok .skipped, pruneServingExports listing s)
  | r => r

/-! ## Calls in any order -/

/-- One call of the DAG or the CLI. `export_serving_mart` either returns a new export
or raises and takes back the file it linked; the DAG task raises on `FAILED`, which
changes nothing more, and is retried as another call. -/
inductive ServingCall where
  | exportServingMart (exportId : String) (mtimeNs : Nat)
  | exportRaised
  | repointAndPrune (answers : MetabaseAnswers) (exportId : String) (settings : MetabaseSettings)
      (listing : List ExportFile)
  | prune (listing : List ExportFile)

def ServingCall.apply : ServingCall → ServingState → ServingState
  | .exportServingMart exportId mtimeNs, s =>
    { s with exports := s.exports ++ [⟨exportId, mtimeNs⟩] }
  | .exportRaised, s => s
  | .repointAndPrune answers exportId settings listing, s =>
    (repointAndPruneServing answers exportId settings listing s).2
  | .prune listing, s => pruneServingExports listing s

/-- `glob` lists the directory, in any order. -/
def ServingCall.Listed : ServingCall → ServingState → Prop
  | .repointAndPrune _ _ _ listing, s | .prune listing, s => listing.Perm s.exports
  | _, _ => True

def ServingStep (s : ServingState) (call : ServingCall) (t : ServingState) : Prop :=
  call.Listed s ∧ t = call.apply s

/-- The file the connection would read is one of the three newest, in the order of this listing. -/
def AmongNewest (listing : List ExportFile) (databaseFile : String) : Prop :=
  ∀ exportId, databaseFile = exportPath exportId →
    ∃ f ∈ newestExports listing, f.exportId = exportId

/-- Metabase stores the path a repoint sends. -/
def Stores (answers : MetabaseAnswers) (settings : MetabaseSettings) : Prop :=
  settings.Complete ∧ isInteger settings.databaseId = true ∧ answers.get = .ok () ∧
    answers.put.stored = true

/-- The stored path is confirmed: the live manifest is the one of the export, and the
schema sync raises nothing that its handler does not catch. -/
def Confirms (answers : MetabaseAnswers) (exportId : String) : Prop :=
  answers.put = .answered ∧ answers.liveExportId = .ok exportId ∧
    ∀ e, answers.sync = .error e → e.isApiError = true

/-- The condition on a call and the state before it: a path Metabase stores names an export that
is there, and a pruning finds the configured file among the three newest. -/
def ServingCall.Meets : ServingCall → ServingState → Prop
  | .exportServingMart .., _ | .exportRaised, _ => True
  | .repointAndPrune answers exportId settings listing, s =>
    (Stores answers settings → ∃ f ∈ s.exports, f.exportId = exportId) ∧
      (Stores answers settings ∧ Confirms answers exportId →
        AmongNewest listing (exportPath exportId)) ∧
      (¬ settings.Complete → AmongNewest listing s.databaseFile)
  | .prune listing, s => AmongNewest listing s.databaseFile

theorem exportPath_injective {a b : String} (h : exportPath a = exportPath b) : a = b := by
  unfold exportPath at h
  have hlist := congrArg String.toList h
  simp only [String.toList_append, List.append_assoc] at hlist
  have htail := List.append_cancel_left hlist
  exact String.toList_inj.1 (List.append_cancel_right htail)

theorem readsExisting_point {s : ServingState} {exportId : String} :
    ReadsExisting (s.point exportId) ↔ ∃ f ∈ s.exports, f.exportId = exportId := by
  constructor
  · intro h
    exact h exportId rfl
  · intro h id hid
    obtain rfl := exportPath_injective (show exportPath exportId = exportPath id from hid)
    exact h

theorem readsExisting_prune {s : ServingState} {listing : List ExportFile} :
    ReadsExisting (pruneServingExports listing s) ↔ AmongNewest listing s.databaseFile := Iff.rfl

/-- What is kept of a listing was in the directory. -/
theorem mem_of_mem_newestExports {s : ServingState} {listing : List ExportFile}
    (hlisted : listing.Perm s.exports) {f : ExportFile} (hf : f ∈ newestExports listing) :
    f ∈ s.exports := by
  have hsorted : f ∈ listing.insertionSort LaterFile := List.mem_of_mem_take hf
  exact hlisted.subset ((List.perm_insertionSort LaterFile listing).subset hsorted)

/-- A repoint without settings prunes with the connection as it is. -/
theorem repointAndPrune_skipped {answers : MetabaseAnswers} {exportId : String}
    {settings : MetabaseSettings} {listing : List ExportFile} {s : ServingState}
    (h : ¬ settings.Complete) :
    (repointAndPruneServing answers exportId settings listing s).2 =
      pruneServingExports listing s := by
  unfold repointAndPruneServing repointMetabaseServing
  rw [if_pos h]

/-- A path that was not stored leaves everything as it is. -/
theorem repointAndPrune_unstored {answers : MetabaseAnswers} {exportId : String}
    {settings : MetabaseSettings} {listing : List ExportFile} {s : ServingState}
    (hcomplete : settings.Complete) (h : ¬ Stores answers settings) :
    (repointAndPruneServing answers exportId settings listing s).2 = s := by
  -- a report answers success only for a repoint that was confirmed
  have hreport : ∀ e, (reportFailed e ≠ .ok .success) ∧ reportFailed e ≠ .ok .skipped := by
    intro e
    unfold reportFailed
    split <;> simp
  unfold repointAndPruneServing repointMetabaseServing
  rw [if_neg (not_not_intro hcomplete)]
  by_cases hint : isInteger settings.databaseId = true
  · rw [if_pos hint]
    cases hget : answers.get with
    | error e =>
      dsimp only
      split <;> simp_all
    | ok u =>
      -- a PUT that is answered, or raises after it was stored, stores the path: both are excluded
      cases hput : answers.put with
      | answered => exact absurd ⟨hcomplete, hint, hget, by rw [hput]; rfl⟩ h
      | raised stored e =>
        have hstored : stored = false := by
          cases stored with
          | false => rfl
          | true => exact absurd ⟨hcomplete, hint, hget, by rw [hput]; rfl⟩ h
        subst hstored
        dsimp only
        split <;> simp_all
  · rw [if_neg hint]

/-- A stored path: the connection names the export, and the exports are pruned where
the path was confirmed. -/
theorem repointAndPrune_stored {answers : MetabaseAnswers} {exportId : String}
    {settings : MetabaseSettings} {listing : List ExportFile} {s : ServingState}
    (h : Stores answers settings) :
    (Confirms answers exportId →
      (repointAndPruneServing answers exportId settings listing s).2 =
        pruneServingExports listing (s.point exportId)) ∧
    (¬ Confirms answers exportId →
      (repointAndPruneServing answers exportId settings listing s).2 = s.point exportId) := by
  obtain ⟨hcomplete, hint, hget, hstored⟩ := h
  unfold repointAndPruneServing repointMetabaseServing
  rw [if_neg (not_not_intro hcomplete), if_pos hint, hget]
  cases hput : answers.put with
  | raised stored e =>
    -- a `PUT` that raised is reported as failed and confirms nothing, stored or not
    have hst : stored = true := by
      rw [hput] at hstored
      exact hstored
    subst hst
    refine ⟨fun hc => absurd hc.1 (by simp [hput]), fun _ => ?_⟩
    cases e <;> rfl
  | answered =>
    unfold checkLiveManifest
    cases hlive : answers.liveExportId with
    | error e =>
      refine ⟨fun hc => absurd hc.2.1 (by simp [hlive]), fun _ => ?_⟩
      cases e <;> rfl
    | ok live =>
      -- an answer is confirmed by the live manifest and by a sync without foreign exception
      by_cases hid : live = exportId
      · subst hid
        cases hsync : answers.sync with
        | ok u =>
          refine ⟨fun _ => by simp, fun hc => absurd ⟨hput, hlive, fun e he => ?_⟩ hc⟩
          rw [hsync] at he
          cases he
        | error e =>
          by_cases he : e.isApiError = true
          · refine ⟨fun _ => by simp [he], fun hc => absurd ⟨hput, hlive, fun e' he' => ?_⟩ hc⟩
            rw [hsync] at he'
            cases he'
            exact he
          · exact ⟨fun hc => absurd (hc.2.2 e hsync) he, fun _ => by simp [he]⟩
      · refine ⟨fun hc => ?_, fun _ => by simp [hid]⟩
        rw [Confirms, hlive] at hc
        exact absurd (Except.ok.inj hc.2.1) hid

/-- One call keeps the file in use exactly under its condition. The cases are those of the
repoint: skipped, not stored, stored. -/
theorem readsExisting_apply {call : ServingCall} {s : ServingState} (hlisted : call.Listed s)
    (hs : ReadsExisting s) : ReadsExisting (call.apply s) ↔ call.Meets s := by
  cases call with
  | exportServingMart exportId mtimeNs =>
    refine iff_of_true (fun id hid => ?_) trivial
    obtain ⟨f, hf, hfid⟩ := hs id hid
    exact ⟨f, List.mem_append_left _ hf, hfid⟩
  | exportRaised => exact iff_of_true hs trivial
  | prune listing => exact readsExisting_prune
  | repointAndPrune answers exportId settings listing =>
    show ReadsExisting (repointAndPruneServing answers exportId settings listing s).2 ↔ _ ∧ _ ∧ _
    by_cases hcomplete : settings.Complete
    · by_cases hstores : Stores answers settings
      · obtain ⟨hconfirmed, hunconfirmed⟩ :
            (Confirms answers exportId → _ = pruneServingExports listing (s.point exportId)) ∧
            (¬ Confirms answers exportId → _ = s.point exportId) := repointAndPrune_stored hstores
        by_cases hconfirms : Confirms answers exportId
        · rw [hconfirmed hconfirms, readsExisting_prune]
          -- a file among the newest of the listing is in the directory
          constructor
          · intro h
            obtain ⟨f, hf, hid⟩ := h exportId rfl
            exact ⟨fun _ => ⟨f, mem_of_mem_newestExports hlisted hf, hid⟩, fun _ => h,
              fun hn => absurd hcomplete hn⟩
          · intro h
            exact h.2.1 ⟨hstores, hconfirms⟩
        · rw [hunconfirmed hconfirms, readsExisting_point]
          constructor
          · intro h
            exact ⟨fun _ => h, fun hc => absurd hc.2 hconfirms, fun hn => absurd hcomplete hn⟩
          · intro h
            exact h.1 hstores
      · rw [repointAndPrune_unstored hcomplete hstores]
        exact iff_of_true hs ⟨fun hst => absurd hst hstores, fun hc => absurd hc.1 hstores,
          fun hn => absurd hcomplete hn⟩
    · rw [repointAndPrune_skipped hcomplete, readsExisting_prune]
      constructor
      · intro h
        exact ⟨fun hst => absurd hst.1 hcomplete, fun hc => absurd hc.1.1 hcomplete, fun _ => h⟩
      · intro h
        exact h.2.2 hcomplete

/-! ## Runs -/

/-- In every run the file in use is there all the way if and only if every call meets its
condition: by induction on the run, with `readsExisting_apply` for the step. -/
theorem servingRetention_iff {s t : ServingState} {calls : List ServingCall}
    (h0 : ReadsExisting s) :
    AlwaysOn ServingStep ReadsExisting s calls t ↔
      EachStep ServingStep ServingCall.Meets s calls t := by
  refine alwaysOn_iff h0 fun u call v hu hstep => ?_
  obtain ⟨hlisted, rfl⟩ := hstep
  exact readsExisting_apply hlisted hu

/-- The connection reads the only export there is. -/
private def firstServing : ServingState := ServingState.point ⟨[⟨"e0", 0⟩], ""⟩ "e0"

private theorem firstServing_reads : ReadsExisting firstServing :=
  readsExisting_point.2 ⟨⟨"e0", 0⟩, List.mem_cons_self, rfl⟩

private def metabaseSettings : MetabaseSettings := ⟨"http://metabase:3000", "key", "2"⟩

/-- Metabase is down. -/
private def metabaseDown : MetabaseAnswers :=
  ⟨.error .urlError, .raised false .urlError, .error .urlError, .error .urlError⟩

/-- Metabase stores the path it is sent and reads the export at it. -/
private def metabaseUp (exportId : String) : MetabaseAnswers :=
  ⟨.ok (), .answered, .ok exportId, .ok ()⟩

/-- What the exports directory holds after four more exports. -/
private def outageExports : List ExportFile :=
  [⟨"e0", 0⟩, ⟨"e1", 1⟩, ⟨"e2", 2⟩, ⟨"e3", 3⟩, ⟨"e4", 4⟩]

/-- An export whose repoint fails because Metabase is down, three more exports, and the
retry of that repoint. -/
private def lateRetry : List ServingCall :=
  [.exportServingMart "e1" 1,
    .repointAndPrune metabaseDown "e1" metabaseSettings [⟨"e0", 0⟩, ⟨"e1", 1⟩],
    .exportServingMart "e2" 2, .exportServingMart "e3" 3, .exportServingMart "e4" 4,
    .repointAndPrune (metabaseUp "e1") "e1" metabaseSettings outageExports]

private theorem lateRetry_run : Run ServingStep firstServing lateRetry
    ⟨newestExports outageExports, exportPath "e1"⟩ := by
  have hsame : ∀ l : List ExportFile, l.Perm l := List.Perm.refl
  have henabled : Enabled ServingStep (fun s call => ServingCall.apply call s) firstServing
      lateRetry :=
    ⟨⟨trivial, rfl⟩, ⟨hsame _, rfl⟩, ⟨trivial, rfl⟩, ⟨trivial, rfl⟩, ⟨trivial, rfl⟩,
      ⟨hsame _, rfl⟩, trivial⟩
  exact Run.of_enabled henabled

/-- The late retry succeeds, and its pruning removes the file it has put in use. -/
theorem servingRetention_false : ∃ calls t, Run ServingStep firstServing calls t ∧
    ReadsExisting firstServing ∧ ¬ ReadsExisting t := by
  refine ⟨lateRetry, _, lateRetry_run, firstServing_reads, fun h => ?_⟩
  obtain ⟨f, hf, hid⟩ := h "e1" rfl
  revert f
  decide

/-- Where the connection names an export, that export is among the newest. -/
theorem amongNewest_exportPath {listing : List ExportFile} {exportId : String} :
    AmongNewest listing (exportPath exportId) ↔
      ∃ f ∈ newestExports listing, f.exportId = exportId := by
  constructor
  · intro h
    exact h exportId rfl
  · intro h id hid
    obtain rfl := exportPath_injective hid
    exact h

/-- Two refreshes and a pruning: three exports, of which the last is confirmed and put in
use, so that the first is removed; one more whose repoint fails; and a pruning, which keeps
the export in use and removes another. -/
private def refreshes : List ServingCall :=
  [.exportServingMart "e1" 1, .exportServingMart "e2" 2, .exportServingMart "e3" 3,
    .repointAndPrune (metabaseUp "e3") "e3" metabaseSettings
      [⟨"e0", 0⟩, ⟨"e1", 1⟩, ⟨"e2", 2⟩, ⟨"e3", 3⟩],
    .exportServingMart "e4" 4,
    .repointAndPrune metabaseDown "e4" metabaseSettings
      [⟨"e3", 3⟩, ⟨"e2", 2⟩, ⟨"e1", 1⟩, ⟨"e4", 4⟩],
    .prune [⟨"e1", 1⟩, ⟨"e2", 2⟩, ⟨"e3", 3⟩, ⟨"e4", 4⟩]]

private theorem refreshes_run : Run ServingStep firstServing refreshes
    ⟨[⟨"e4", 4⟩, ⟨"e3", 3⟩, ⟨"e2", 2⟩], exportPath "e3"⟩ := by
  have henabled : Enabled ServingStep (fun s call => ServingCall.apply call s) firstServing
      refreshes := by
    refine ⟨⟨trivial, rfl⟩, ⟨trivial, rfl⟩, ⟨trivial, rfl⟩, ⟨?_, rfl⟩, ⟨trivial, rfl⟩, ⟨?_, rfl⟩,
      ⟨?_, rfl⟩, trivial⟩
    · exact List.Perm.refl _
    · exact List.Perm.refl _
    · show List.Perm _ _
      decide
  exact Run.of_enabled henabled

private theorem refreshes_meet : Checked ServingCall.Meets (fun s call => ServingCall.apply call s)
    firstServing refreshes := by
  refine ⟨trivial, trivial, trivial, ⟨fun _ => ?_, fun _ => ?_, fun h => ?_⟩, trivial,
    ⟨fun h => ?_, fun h => ?_, fun h => ?_⟩, ?_, trivial⟩
  · exact ⟨⟨"e3", 3⟩, by decide, rfl⟩
  · exact amongNewest_exportPath.2 ⟨⟨"e3", 3⟩, by decide, rfl⟩
  · exact absurd (by decide) h
  · exact absurd h.2.2.1 (by decide)
  · exact absurd h.1.2.2.1 (by decide)
  · exact absurd (by decide) h
  · exact amongNewest_exportPath.2 ⟨⟨"e3", 3⟩, by decide, rfl⟩

theorem servingRetention_refreshes : ∃ calls t,
    Run ServingStep firstServing calls t ∧
    t = ⟨[⟨"e4", 4⟩, ⟨"e3", 3⟩, ⟨"e2", 2⟩], exportPath "e3"⟩ ∧
    AlwaysOn ServingStep ReadsExisting firstServing calls t := by
  refine ⟨refreshes, _, refreshes_run, rfl, (servingRetention_iff firstServing_reads).2 ?_⟩
  exact eachStep_of_checked (fun s call t hstep => hstep.2) refreshes_meet

end CommercePlatform.Serving
