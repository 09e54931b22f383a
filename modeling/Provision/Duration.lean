/-!
Contract: spans of time.

Owns:
- the span as a number of nanoseconds;
- its whole milliseconds and whole seconds, both rounded down.

Does not own: clocks, or who waits for how long.
-/

namespace Provision

/-- A span of time. -/
structure Duration where
  nanoseconds : Nat
deriving DecidableEq, Repr

namespace Duration

/-- The span of a number of seconds. -/
def ofSeconds (seconds : Nat) : Duration :=
  ⟨seconds * 1000000000⟩

/-- The span of seconds and further nanoseconds. -/
def ofParts (seconds nanoseconds : Nat) : Duration :=
  ⟨seconds * 1000000000 + nanoseconds⟩

/-- The whole milliseconds of a span. -/
def milliseconds (span : Duration) : Nat :=
  span.nanoseconds / 1000000

/-- The whole seconds of a span. -/
def seconds (span : Duration) : Nat :=
  span.nanoseconds / 1000000000

/-- The nanoseconds beyond the whole seconds of a span. -/
def fraction (span : Duration) : Nat :=
  span.nanoseconds % 1000000000

end Duration

end Provision
