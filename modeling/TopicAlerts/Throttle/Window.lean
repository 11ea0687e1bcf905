/-!
# Fixed windows

A fixed window admits a number of calls, its permits, in each period. Periods follow each other
without gap from the instant when the window was made, as long as no more than `2³²` of them pass
between two calls; after a longer pause the next period starts with the call.

Instants are nanoseconds on a clock that may also go back: a call before the current period counts
for the current period.
-/

namespace TopicAlerts.Throttle

/-- A fixed window at some instant of its life. -/
structure Window where
  /-- How many calls each period admits. -/
  permits : Nat
  /-- The length of a period in nanoseconds. -/
  period : Nat
  /-- How many calls the current period still admits. -/
  available : Nat
  /-- When the current period started. -/
  start : Int
deriving DecidableEq, Repr

namespace Window

/-- A window made at this instant. -/
def new (permits period : Nat) (now : Int) : Window := ⟨permits, period, permits, now⟩

/-- How long after the start of the current period an instant is. -/
def elapsed (window : Window) (now : Int) : Nat := (now - window.start).toNat

/-- The start of the period that an instant lies in, which is not the current one. -/
def nextStart (window : Window) (now : Int) : Int :=
  let periods := window.elapsed now / window.period
  if periods < UInt32.size then window.start + (window.period * periods : Nat) else now

/-- Go on to the period that an instant lies in, if the current one is over. -/
def refill (window : Window) (now : Int) : Window :=
  if window.elapsed now < window.period then window
  else { window with start := window.nextStart now, available := window.permits }

/-- Ask to be admitted at an instant. A window without permits admits nothing, and one with a
period of no length everything. -/
def tryAcquire (window : Window) (now : Int) : Bool × Window :=
  if window.permits = 0 then (false, window)
  else if window.period = 0 then (true, window)
  else
    let window := window.refill now
    if window.available = 0 then (false, window)
    else (true, { window with available := window.available - 1 })

end Window

end TopicAlerts.Throttle
