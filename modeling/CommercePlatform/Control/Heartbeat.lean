import CommercePlatform.Common.SourceLease
import CommercePlatform.Control.TableLease
/-!
# The lease heartbeat

`LeaseHeartbeat` of `src/ingestion/control/lease.py`: a thread beside an ingestion that
renews the source lease and then the table lease in every interval. A renewal that
raises ends the thread; the ingestion finds the exception when it asks
(`assert_healthy`) and when it leaves the context.

The thread renews the table lease at the version it was taken at. A commit raises that
version, so the first renewal after a commit raises. In the window between the commit
and the end of the block the heartbeat can therefore report a lease that was lost by
success; what follows from that is in the machine that runs it (`Platform/World`).

A heartbeat is a small state machine here, one transition for each thing the thread
does, so that another process can step between any two of them: the wait ends, the
source lease is renewed or the renewal raises, the table lease is renewed or the renewal
raises.

Mirroring notes vs the source:
- The waiting time itself is not modelled: an interval may end at any moment.
- `__exit__` joins the thread with a timeout. Here a thread that has not seen the event
  may still take its next step after `stop`.
- `now` is the injected clock; without one every round reads its own.
- The table lease is there: this is the heartbeat of an ingestion. The one of
  `warehouse_source_freeze`, which renews the source lease alone, is not modelled.
-/

namespace CommercePlatform

/-- Where the thread is: in `wait`, before one of the two renewals, or returned. -/
inductive HeartbeatPhase where
  | waiting
  | renewingSource
  | renewingTable
  | ended
deriving DecidableEq, Repr

/-- The fields of a `LeaseHeartbeat`: the two leases as last renewed, the failure and the event. -/
structure Heartbeat where
  sourceLease : SourceMutationLease
  tableLease : TableLease
  now : Option Timestamp
  stopped : Bool
  failure : Option Raised
  phase : HeartbeatPhase
deriving DecidableEq

/-- `__init__` and `__enter__`. -/
def Heartbeat.start (sourceLease : SourceMutationLease) (tableLease : TableLease)
    (now : Option Timestamp) : Heartbeat :=
  ⟨sourceLease, tableLease, now, false, none, .waiting⟩

/-- `self._stop.set()`. -/
def Heartbeat.stop (h : Heartbeat) : Heartbeat := { h with stopped := true }

/-- `assert_healthy`: raises what a renewal raised, if one did. -/
def Heartbeat.assertHealthy (h : Heartbeat) : Except Raised Unit :=
  h.failure.elim (.ok ()) .error

/-- `wait` returned: with `False` at the end of an interval, with `True` once stopped. -/
def Heartbeat.wake (h : Heartbeat) : Heartbeat :=
  { h with phase := if h.stopped then .ended else .renewingSource }

/-- The handler of `_run`: the exception is kept and the event set, and the thread returns. -/
def Heartbeat.fail (h : Heartbeat) (e : Raised) : Heartbeat :=
  { h with failure := some e, stopped := true, phase := .ended }

/-- After the first renewal. -/
def Heartbeat.renewedSource (h : Heartbeat) (lease : SourceMutationLease) : Heartbeat :=
  { h with sourceLease := lease, phase := .renewingTable }

/-- After the second renewal. -/
def Heartbeat.renewedTable (h : Heartbeat) (lease : TableLease) : Heartbeat :=
  { h with tableLease := lease, phase := .waiting }

/-- The thread after the first renewal. -/
def Heartbeat.afterSource (h : Heartbeat) : Except Raised SourceMutationLease → Heartbeat
  | .ok lease => h.renewedSource lease
  | .error e => h.fail e

/-- The thread after the second renewal. -/
def Heartbeat.afterTable (h : Heartbeat) : Except Raised TableLease → Heartbeat
  | .ok lease => h.renewedTable lease
  | .error e => h.fail e

end CommercePlatform
