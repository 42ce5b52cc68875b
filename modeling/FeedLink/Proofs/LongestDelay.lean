import FeedLink.Proofs.Pacing
import FeedLink.Proofs.RoundingAbove

/-!
# How long a delay can be

The longest interval of a schedule bounds its intervals, from the second on. It does not bound its
delays: the jitter is added after the interval was cut, and the first interval is not cut at all. So
a delay can last longer than the longest interval, and under the standard settings the eighth one
does.

Whether any does is a question about the intervals alone, as long as the ceiling lets one through
(`Schedule.keepsWithin_iff`): whoever asks for delays at once gets all of them uncut. What is known
of double precision then tells how much longer a delay can be, which is half as long again.

## Main definitions

* `Schedule.KeepsWithin` — no delay lasts longer, whatever is done to the schedule

## Main results

* `Schedule.keepsWithin_iff` — a bound on all delays, in terms of the intervals
* `BackoffConfig.interval_le` — a bound on all intervals
* `BackoffConfig.keeps_to_longest_iff`
-/

namespace FeedLink

/-! ### Delays and intervals -/

namespace Pacer

variable {schedule : Schedule}

theorem after_append (p : Pacer) (uses later : List Use) :
    p.after (uses ++ later) = (p.after uses).after later := List.foldl_append

theorem log_append (p : Pacer) (uses later : List Use) :
    p.log (uses ++ later) = p.log uses ++ (p.after uses).log later := by
  induction uses generalizing p with
  | nil => rfl
  | cons u rest ih => simp only [List.cons_append, log, ih, after_cons]

/-- A schedule that is asked for delays all at once hands out all of them. -/
theorem follows_replicate_next (now : Duration) (hceiling : .zero < schedule.ceiling) (k : ℕ) :
    ((start schedule now).after (List.replicate k .next)).Follows schedule ⟨.zero, k⟩ := by
  induction k with
  | zero => exact follows_start schedule now
  | succ k ih =>
    have hdelay : (((start schedule now).after (List.replicate k .next)).reading .next).delay = _ :=
      ih.next_of_left hceiling
    have hafter := ih.use .next
    rw [List.replicate_succ', after_append, after_cons, after_nil]
    simpa only [Tally.note, hdelay, Option.toList_some, List.length_singleton] using hafter

end Pacer

namespace Schedule

variable {schedule : Schedule} {most : Duration}

/-- Whatever is done to a schedule, no delay lasts longer than this. -/
def KeepsWithin (schedule : Schedule) (most : Duration) : Prop :=
  ∀ now uses, ∀ entry ∈ (Pacer.start schedule now).log uses, ∀ delay,
    entry.2.delay = some delay → delay ≤ most

/-- **A bound on all delays is one on the ceiling, or on the delays of all intervals.** -/
theorem keepsWithin_iff :
    schedule.KeepsWithin most ↔ schedule.ceiling ≤ most ∨
      ∀ k, .ofMillis (schedule.growth.delay (schedule.interval k)) ≤ most := by
  constructor
  · intro hkeeps
    by_contra hneither
    obtain ⟨hceiling, hlong⟩ := not_or.mp hneither
    obtain ⟨k, hk⟩ := not_forall.mp hlong
    have hlt : most.nanos < schedule.ceiling.nanos := Nat.lt_of_not_le hceiling
    have hpos : .zero < schedule.ceiling := Nat.zero_lt_of_lt hlt
    have hnext := (Pacer.follows_replicate_next .zero hpos k).next_of_left hpos
    -- the schedule is asked for so many delays, and then for the one that is too long
    have hbound := hkeeps .zero (List.replicate k .next ++ [.next]) (.next, _)
      (by rw [Pacer.log_append]; exact List.mem_append_right _ (List.mem_singleton_self _)) _ hnext
    simp only [Duration.le_def, Duration.nanos_min, Duration.nanos_sub] at hbound hk
    change min _ (schedule.ceiling.nanos - 0) ≤ _ at hbound
    omega
  · rintro hbound now uses entry hentry delay hdelay
    obtain ⟨k, passed, rfl⟩ := (Pacer.follows_start schedule now).delay_of_mem_log hentry hdelay
    simp only [Duration.le_def, Duration.nanos_min, Duration.nanos_sub] at hbound ⊢
    rcases hbound with hceiling | hall
    · omega
    · exact (Nat.min_le_left ..).trans (hall k)

end Schedule

/-! ### Double precision -/

namespace BackoffConfig

variable {c : BackoffConfig}

/-- An interval is at most the first one or the longest. -/
theorem interval_le (hmax : 2 * c.maxInterval.millis < 2 ^ 53) (k : ℕ) :
    c.schedule.interval k ≤ max c.initial.millis c.maxInterval.millis := by
  cases k with
  | zero => exact le_max_left ..
  | succ k =>
    rw [Schedule.interval, Function.iterate_succ_apply']
    exact (next_le_maxInterval _ hmax).trans (le_max_right ..)

/-- **When delays keep to the longest interval.** They do if and only if the ceiling does, or the
delay of each interval. Where spans are short enough for doubles to be exact, that is so without
jitter, if the first interval is not longer than the longest; it is not so, under any jitter, if the
first interval is longer and the ceiling too; and in any case no delay lasts longer than one and a
half times the longer of the two. -/
theorem keeps_to_longest_iff (c : BackoffConfig) :
    (c.schedule.KeepsWithin c.maxInterval ↔ c.maxElapsed ≤ c.maxInterval ∨
      ∀ k, c.growth.delay (c.schedule.interval k) ≤ c.maxInterval.millis) ∧
    (0.0 ≤ c.jitter → c.jitter ≤ 1.0 →
      3 * max c.initial.millis c.maxInterval.millis < 2 ^ 53 →
        (c.jitter ≤ 0.0 → c.initial.millis ≤ c.maxInterval.millis →
          c.schedule.KeepsWithin c.maxInterval) ∧
        (c.schedule.KeepsWithin c.maxInterval →
          c.maxElapsed ≤ c.maxInterval ∨ c.initial.millis ≤ c.maxInterval.millis) ∧
        c.schedule.KeepsWithin ⟨3 * max c.initial.nanos c.maxInterval.nanos / 2⟩) := by
  have hmillis (n : ℕ) : .ofMillis n ≤ c.maxInterval ↔ n ≤ c.maxInterval.millis := by
    rw [Duration.le_def, Duration.nanos_ofMillis, Duration.millis,
      Nat.le_div_iff_mul_le (by decide)]
  have hiff : c.schedule.KeepsWithin c.maxInterval ↔ c.maxElapsed ≤ c.maxInterval ∨
      ∀ k, c.growth.delay (c.schedule.interval k) ≤ c.maxInterval.millis := by
    rw [Schedule.keepsWithin_iff]
    exact or_congr_right (forall_congr' fun k => hmillis _)
  refine ⟨hiff, fun hlow hhigh hsmall => ⟨fun hnone hfirst => ?_, fun hkeeps => ?_, ?_⟩⟩
  · refine hiff.mpr (.inr fun k => ?_)
    have hk := interval_le (c := c) (by omega) k
    exact (delay_le_of_no_jitter hlow hnone (by omega)).trans (hk.trans_eq (max_eq_right hfirst))
  · refine (hiff.mp hkeeps).imp id fun hall => ?_
    exact (self_le_delay hlow hhigh (by omega)).trans (hall 0)
  · refine Schedule.keepsWithin_iff.mpr (.inr fun k => ?_)
    have hk := interval_le (c := c) (by omega) k
    have hdelay := delay_le_three_halves (n := c.schedule.interval k) hlow hhigh (by omega)
    rw [Duration.le_def, Duration.nanos_ofMillis]
    change c.growth.delay _ * 1000000 ≤ 3 * max c.initial.nanos c.maxInterval.nanos / 2
    rw [Duration.millis, Duration.millis] at hk
    omega

/-- Settings without jitter. -/
def unjittered : BackoffConfig := ⟨.ofMillis 100, .ofMillis 500, 2.0, .ofSeconds 60, 0.0⟩

/-- Without jitter delays keep to half a second; with it, to fifteen seconds instead of ten. -/
theorem half_second_and_fifteen_seconds :
    unjittered.schedule.KeepsWithin (.ofMillis 500) ∧
      standard.schedule.KeepsWithin (.ofSeconds 15) := by
  obtain ⟨-, hquiet⟩ := keeps_to_longest_iff unjittered
  obtain ⟨-, hstandard⟩ := keeps_to_longest_iff standard
  obtain ⟨hkeeps, -, -⟩ := hquiet (by decide +kernel) (by decide +kernel) (by decide)
  obtain ⟨-, -, hlonger⟩ := hstandard (by decide +kernel) (by decide +kernel) (by decide)
  exact ⟨hkeeps (by decide +kernel) (by decide), hlonger⟩

/-- **Delays exceed the longest interval**: under the standard settings the eighth one lasts half a
second longer, and where the first interval is the longer one, the first one does without any
jitter. -/
theorem delays_exceed_longest :
    (1.0 ≤ standard.multiplier ∧ 0.0 ≤ standard.jitter ∧ standard.jitter ≤ 1.0 ∧
      ¬standard.schedule.KeepsWithin standard.maxInterval) ∧
    let c : BackoffConfig := { unjittered with initial := .ofSeconds 1 }
    1.0 ≤ c.multiplier ∧ 0.0 ≤ c.jitter ∧ c.jitter ≤ 1.0 ∧
      ¬c.schedule.KeepsWithin c.maxInterval := by
  refine ⟨⟨by decide +kernel, by decide +kernel, by decide +kernel, fun hkeeps => ?_⟩,
    by decide +kernel, by decide +kernel, by decide +kernel, fun hkeeps => ?_⟩
  · have heighth : ∃ entry ∈ (Pacer.start standard.schedule .zero).log (List.replicate 8 .next),
        entry.2.delay = some (.ofMillis 10500) := by decide +kernel
    obtain ⟨entry, hentry, hdelay⟩ := heighth
    exact absurd (hkeeps _ _ entry hentry _ hdelay) (by decide)
  · have hfirst : ∃ entry ∈ (Pacer.start { unjittered with initial := .ofSeconds 1 }.schedule
        .zero).log [.next], entry.2.delay = some (.ofSeconds 1) := by decide +kernel
    obtain ⟨entry, hentry, hdelay⟩ := hfirst
    exact absurd (hkeeps _ _ entry hentry _ hdelay) (by decide)

end BackoffConfig

end FeedLink
