import FeedLink.Backoff

/-!
# Trying again

An operation is tried until it succeeds, fails for good, or its backoff hands out no further delay.
`Retry.run` follows a list of trials, each with its outcome and the time it takes, and sleeps
between them by a clock. An operation that goes on after the list is left pending.
-/

namespace FeedLink

/-- How one attempt ends. -/
inductive Attempt (ε α : Type) where
  | success (a : α)
  /-- Worth trying again after a delay. -/
  | transient (e : ε)
  /-- Not worth trying again. -/
  | permanent (e : ε)
deriving Repr

/-- An attempt and the time it takes. -/
structure Trial (ε α : Type) where
  takes : Duration
  outcome : Attempt ε α

/-- How trying ends. -/
inductive Verdict (ε α : Type) where
  | success (a : α)
  | permanent (e : ε)
  /-- The ceiling was reached, after so many attempts of which the last failed with `last`. -/
  | exhausted (last : ε) (attempts : Nat) (elapsed : Duration)
  /-- It has not ended yet. -/
  | pending
deriving Repr

/-- When a sleeper wakes who falls asleep at some time for some span. -/
abbrev Clock : Type := Duration → Duration → Duration

namespace Clock

/-- Sleeping takes exactly as long as was asked for. -/
def exact : Clock := fun now span => now + span

/-- Sleepers wake at whole milliseconds, and never too early. -/
def ticking : Clock := fun now span => .ofMillis (((now + span).nanos + 999999) / 1000000)

end Clock

namespace Retry

/-- What happens after a transient failure: a delay, or the end. -/
def afterFailure (b : Backoff) (now : Duration) (e : ε) :
    (Duration × Backoff) ⊕ Verdict ε α :=
  match b.next now with
  | (some delay, b) => .inl (delay, b)
  | (none, b) => .inr (.exhausted e (b.attempt + 1) (b.elapsed now))

/-- Follows the trials from a moment on: the times at which they begin, and how it ends. -/
def run (clock : Clock) (b : Backoff) (now : Duration) :
    List (Trial ε α) → List Duration × Verdict ε α
  | [] => ([], .pending)
  | trial :: rest =>
    let done := if trial.takes = .zero then now else clock now trial.takes
    match trial.outcome with
    | .success a => ([now], .success a)
    | .permanent e => ([now], .permanent e)
    | .transient e =>
      match afterFailure b done e with
      | .inr verdict => ([now], verdict)
      | .inl (delay, b) =>
        let (calls, verdict) := run clock b (clock done delay) rest
        (now :: calls, verdict)

/-- Tries an operation under a schedule that starts now. -/
def start (clock : Clock) (schedule : Schedule) (now : Duration) (trials : List (Trial ε α)) :
    List Duration × Verdict ε α :=
  run clock (.start schedule now) now trials

end Retry

end FeedLink
