/-!
# Spans of time

A `Duration` counts whole nanoseconds. Clocks, timeouts and backoff intervals are durations, and an
error message shows one with `Duration.display`: the largest of the units s, ms, µs and ns that
leaves a whole part, with as many decimals as are needed and no more.
-/

namespace FeedLink

/-- A span of time in nanoseconds. -/
structure Duration where
  nanos : Nat
deriving DecidableEq, Repr, Inhabited

namespace Duration

/-- No time at all. -/
def zero : Duration := ⟨0⟩

def ofMicros (n : Nat) : Duration := ⟨n * 1000⟩

def ofMillis (n : Nat) : Duration := ⟨n * 1000000⟩

def ofSeconds (n : Nat) : Duration := ⟨n * 1000000000⟩

/-- The longest span a duration of 64-bit seconds and a nanosecond part can hold. -/
def longest : Duration := ⟨(UInt64.size - 1) * 1000000000 + 999999999⟩

/-- The whole milliseconds of a span; a started millisecond does not count. -/
def millis (d : Duration) : Nat := d.nanos / 1000000

/-- The whole seconds of a span. -/
def seconds (d : Duration) : Nat := d.nanos / 1000000000

/-- What is left of a span after its whole seconds. -/
def subsecNanos (d : Duration) : Nat := d.nanos % 1000000000

instance : Add Duration := ⟨fun a b => ⟨a.nanos + b.nanos⟩⟩

/-- The span from `b` to `a`, or none at all when `b` is the longer one. -/
instance : Sub Duration := ⟨fun a b => ⟨a.nanos - b.nanos⟩⟩

instance : LE Duration := ⟨fun a b => a.nanos ≤ b.nanos⟩

instance : LT Duration := ⟨fun a b => a.nanos < b.nanos⟩

instance : DecidableLE Duration := fun a b => inferInstanceAs (Decidable (a.nanos ≤ b.nanos))

instance : DecidableLT Duration := fun a b => inferInstanceAs (Decidable (a.nanos < b.nanos))

/-- The shorter of two spans. -/
instance : Min Duration := ⟨fun a b => ⟨Nat.min a.nanos b.nanos⟩⟩

theorem le_def (a b : Duration) : a ≤ b ↔ a.nanos ≤ b.nanos := Iff.rfl

theorem lt_def (a b : Duration) : a < b ↔ a.nanos < b.nanos := Iff.rfl

@[simp] theorem nanos_add (a b : Duration) : (a + b).nanos = a.nanos + b.nanos := rfl

@[simp] theorem nanos_sub (a b : Duration) : (a - b).nanos = a.nanos - b.nanos := rfl

@[simp] theorem nanos_min (a b : Duration) : (min a b).nanos = min a.nanos b.nanos := rfl

@[simp] theorem nanos_ofMillis (n : Nat) : (ofMillis n).nanos = n * 1000000 := rfl

@[simp] theorem millis_ofMillis (n : Nat) : (ofMillis n).millis = n := by
  simp [ofMillis, millis]

/-- The decimals of `part` out of `10 ^ places`, without the zeros at their end. -/
def decimals (places part : Nat) : String :=
  let digits := Nat.toDigits 10 part
  let padded := List.replicate (places - digits.length) '0' ++ digits
  String.ofList (padded.reverse.dropWhile (· == '0')).reverse

/-- A whole part, its decimals if there are any, and a unit. -/
def inUnit (whole part places : Nat) (unit : String) : String :=
  let fraction := decimals places part
  if fraction.isEmpty then toString whole ++ unit
  else toString whole ++ "." ++ fraction ++ unit

/-- The text of a span in messages, such as `1.009s`, `250ms` or `0ns`. -/
def display (d : Duration) : String :=
  if d.nanos ≥ 1000000000 then inUnit (d.nanos / 1000000000) (d.nanos % 1000000000) 9 "s"
  else if d.nanos ≥ 1000000 then inUnit (d.nanos / 1000000) (d.nanos % 1000000) 6 "ms"
  else if d.nanos ≥ 1000 then inUnit (d.nanos / 1000) (d.nanos % 1000) 3 "µs"
  else toString d.nanos ++ "ns"

end Duration

end FeedLink
