/-!
Points in time, in milliseconds on a clock that may be set back.
-/
namespace RouteDiscovery

abbrev Time := Int

/-- The milliseconds from `since` to `now`, none if `now` is earlier. -/
def elapsed (now since : Time) : Nat :=
  (now - since).toNat

end RouteDiscovery
