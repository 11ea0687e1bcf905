/-!
# The reconciler

The reconciler makes the subscriptions follow the rules: once when it starts, then whenever its
interval is over, and whenever it gets a hint that the topics of the rules have changed. Hints that
wait together lead to one reconciliation.
-/

namespace TopicAlerts

/-- A hint about the topics of the rules. -/
inductive TopicHint
  /-- A rule in force looks at this topic now. -/
  | added (topic : String)
  /-- A rule in force does not look at this topic any more. -/
  | removed (topic : String)
deriving DecidableEq, Repr

/-- What the reconciler is doing. -/
inductive Reconciler.Stage
  /-- It was not started. -/
  | unstarted
  /-- It waits for this call of the manager to finish; the interval is over at this time, unless
  this is the first call. -/
  | reconciling (call : Nat) (tick : Option Nat)
  /-- It waits for a hint, or for the interval to be over at this time. -/
  | idle (tick : Nat)
  /-- It is stopped. -/
  | stopped
deriving DecidableEq, Repr

/-- The reconciler. -/
structure Reconciler where
  /-- The interval in milliseconds. -/
  interval : Nat
  /-- What it is doing. -/
  stage : Reconciler.Stage := .unstarted
  /-- The hints that wait. -/
  hints : List TopicHint := []
  /-- Whether anyone can send hints. -/
  connected : Bool := true
  /-- Whether it was asked to stop. -/
  cancelled : Bool := false
deriving DecidableEq, Repr

/-- What the reconciler does next. -/
inductive Reconciler.Turn
  /-- It stops. -/
  | stop
  /-- It reconciles, and the interval is over next at this time. -/
  | reconcile (tick : Nat)
  /-- There is nothing to do. -/
  | wait
deriving DecidableEq, Repr

namespace Reconciler

/-- How late a tick may be, in milliseconds, for the next one to keep to the grid. -/
def tickTolerance : Nat := 5

/-- When the interval is over next after it was found to be over. -/
def nextTick (interval tick now : Nat) : Nat :=
  if tick + tickTolerance < now then now + interval else tick + interval

/-- Send a hint; it is lost if nobody can receive it. -/
def hint (reconciler : Reconciler) (hint : TopicHint) : Reconciler :=
  if reconciler.connected && reconciler.stage != .stopped then
    { reconciler with hints := reconciler.hints ++ [hint] }
  else reconciler

/-- What the idle reconciler does at a time, and its state then: a request to stop goes first, the
interval second, hints last. -/
def next (reconciler : Reconciler) (now tick : Nat) : Turn × Reconciler :=
  if reconciler.cancelled then (.stop, { reconciler with stage := .stopped, hints := [] })
  else if tick ≤ now then (.reconcile (nextTick reconciler.interval tick now), reconciler)
  else if reconciler.hints.isEmpty then (.wait, reconciler)
  else (.reconcile tick, { reconciler with hints := [] })

end Reconciler

end TopicAlerts
