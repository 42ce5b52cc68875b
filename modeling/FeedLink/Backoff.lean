import FeedLink.Duration

/-!
# Exponential backoff under a ceiling

A schedule hands out delays that grow from an initial interval, until the time since it was started
reaches a ceiling; the last delay is shortened so that nobody sleeps past the ceiling. Intervals are
counted in whole milliseconds.

How a delay follows from an interval, and the next interval from the last one, is the `Growth` of a
schedule. `BackoffConfig.growth` computes both in double precision, with results that are cut to 64
bits; what the schedule guarantees does not depend on it.
-/

namespace FeedLink

/-- The arithmetic of a schedule, from milliseconds to milliseconds. -/
structure Growth where
  /-- The delay handed out for an interval. -/
  delay : Nat → Nat
  /-- The interval after an interval. -/
  next : Nat → Nat

/-- How a schedule starts, grows and ends. -/
structure Schedule where
  /-- The interval of the first delay. -/
  initial : Duration
  /-- No delay is handed out once this much time has passed. -/
  ceiling : Duration
  growth : Growth

/-- The settings of a schedule. -/
structure BackoffConfig where
  initial : Duration
  /-- The interval does not grow past this. -/
  maxInterval : Duration
  /-- An interval is this many times the one before. -/
  multiplier : Float
  /-- No delay is handed out once this much time has passed. -/
  maxElapsed : Duration
  /-- Half of this fraction of an interval is added to it. -/
  jitter : Float
deriving Repr

namespace BackoffConfig

def standard : BackoffConfig where
  initial := .ofMillis 100
  maxInterval := .ofSeconds 10
  multiplier := 2.0
  maxElapsed := .ofSeconds 60
  jitter := 0.1

/-- The standard growth from an initial interval up to a ceiling. -/
def bounded (initial maxElapsed : Duration) : BackoffConfig :=
  { standard with initial, maxElapsed }

/-- The smaller of two doubles, where a NaN counts as the larger. -/
def smaller (a b : Float) : Float :=
  if a.isNaN then b else if b.isNaN then a else if a < b then a else b

/-- A double as whole milliseconds: the part before the point, kept within 64 bits, and nothing
for a NaN. -/
def wholeMillis (x : Float) : Nat := x.toUInt64.toNat

/-- The growth in double precision. -/
def growth (c : BackoffConfig) : Growth where
  delay interval :=
    let base := Float.ofNat interval
    wholeMillis (base + base * c.jitter * 0.5)
  next interval :=
    wholeMillis (smaller (Float.ofNat interval * c.multiplier) (Float.ofNat c.maxInterval.millis))

/-- The schedule with these settings. -/
def schedule (c : BackoffConfig) : Schedule := ⟨c.initial, c.maxElapsed, c.growth⟩

end BackoffConfig

/-- A schedule that was started. -/
structure Backoff where
  schedule : Schedule
  started : Duration
  /-- The interval of the next delay. -/
  interval : Duration
  /-- How many delays were handed out. -/
  attempt : Nat

namespace Backoff

/-- Starts a schedule. -/
def start (schedule : Schedule) (now : Duration) : Backoff := ⟨schedule, now, schedule.initial, 0⟩

/-- The time since the start. -/
def elapsed (b : Backoff) (now : Duration) : Duration := now - b.started

/-- The delay before the next attempt, or none from the ceiling on. -/
def next (b : Backoff) (now : Duration) : Option Duration × Backoff :=
  if b.schedule.ceiling ≤ b.elapsed now then (none, b)
  else
    let remaining := b.schedule.ceiling - b.elapsed now
    let growth := b.schedule.growth
    (some (min (.ofMillis (growth.delay b.interval.millis)) remaining),
      { b with interval := .ofMillis (growth.next b.interval.millis), attempt := b.attempt + 1 })

/-- Starts over from the initial interval. -/
def reset (b : Backoff) (now : Duration) : Backoff := start b.schedule now

end Backoff

end FeedLink
