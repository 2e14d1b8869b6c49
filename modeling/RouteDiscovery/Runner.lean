import RouteDiscovery.Clock

/-!
The pace of polls: one at once, then one in each period until the runner is stopped.
-/
namespace RouteDiscovery

structure Runner where
  period : Nat
  next : Time
  running : Bool := true
  polls : Nat := 0
  deriving DecidableEq

namespace Runner

def start (period : Nat) (now : Time) : Runner :=
  { period, next := now }

def isDue (now : Time) (runner : Runner) : Bool :=
  runner.running && decide (runner.next ≤ now)

/-- Counts a poll and sets the time of the next one. -/
def polled (now : Time) (runner : Runner) : Runner :=
  { runner with next := now + runner.period, polls := runner.polls + 1 }

def stop (runner : Runner) : Runner :=
  { runner with running := false }

end Runner
end RouteDiscovery
