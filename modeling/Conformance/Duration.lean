/-!
# Spans of time

* `Duration` : a span of time; `Duration.ofUs`, `Duration.ofMs`, `Duration.ofSecs` : spans in larger units;
* `Duration.wholeUs`, `Duration.wholeMs` : how many whole units a span has;
* `Duration.ms64` : the same in a number of sixty-four bits.
-/

namespace Conformance

/-- A span of time. -/
structure Duration where
  nanoseconds : Nat
  deriving DecidableEq, Repr, Inhabited

namespace Duration

/-- How many nanoseconds a microsecond has. -/
def nsPerUs : Nat := 1000

/-- How many nanoseconds a millisecond has. -/
def nsPerMs : Nat := 1000000

/-- How many nanoseconds a second has. -/
def nsPerSec : Nat := 1000000000

/-- No time at all. -/
def zero : Duration := ⟨0⟩

def ofUs (n : Nat) : Duration := ⟨n * nsPerUs⟩

def ofMs (n : Nat) : Duration := ⟨n * nsPerMs⟩

def ofSecs (n : Nat) : Duration := ⟨n * nsPerSec⟩

/-- How many whole microseconds a span has. -/
def wholeUs (d : Duration) : Nat := d.nanoseconds / nsPerUs

/-- How many whole milliseconds a span has. -/
def wholeMs (d : Duration) : Nat := d.nanoseconds / nsPerMs

/-- How many whole milliseconds a span has, in sixty-four bits. -/
def ms64 (d : Duration) : Nat := d.wholeMs % UInt64.size

/-- A span that is repeated. -/
def times (d : Duration) (n : Nat) : Duration := ⟨n * d.nanoseconds⟩

instance : LE Duration := ⟨fun d d' => d.nanoseconds ≤ d'.nanoseconds⟩

instance : LT Duration := ⟨fun d d' => d.nanoseconds < d'.nanoseconds⟩

instance (d d' : Duration) : Decidable (d ≤ d') :=
  inferInstanceAs (Decidable (d.nanoseconds ≤ d'.nanoseconds))

instance (d d' : Duration) : Decidable (d < d') :=
  inferInstanceAs (Decidable (d.nanoseconds < d'.nanoseconds))

theorem le_iff {d d' : Duration} : d ≤ d' ↔ d.nanoseconds ≤ d'.nanoseconds := Iff.rfl

theorem lt_iff {d d' : Duration} : d < d' ↔ d.nanoseconds < d'.nanoseconds := Iff.rfl

end Duration

end Conformance
