import FeedLink.Proofs.Backoff
import FeedLink.Retry

/-!
# Trying again, attempt by attempt

`Tried` says how a run comes about, one rule for each way in which an attempt ends: the operation
succeeds, it fails for good, it fails when the schedule is spent, or it fails and a delay is handed
out. What is said about a run is an induction along these rules. Two things are said: every attempt
is accounted for, whatever the operation does and however long it takes; and a run whose attempts
all fail at once comes to an end, if its delays last a millisecond at least.

The last condition cannot be spared. An interval of nothing stays nothing when it is multiplied, and
somebody who sleeps for no time, and tries what takes no time, does not get any nearer to the
ceiling.

## Main definitions

* `Retry.Tried` — how a run comes about
* `Retry.Ends` — how the end of an operation becomes the end of a run
* `Trial.FailsAtOnce`, `Retry.failing` — an operation that fails each time, in no time
* `Backoff.Stalled` — a schedule whose delays last no time

## Main results

* `Retry.tried_run` — a run comes about by the rules
* `Retry.Tried.accounts`, `Retry.Tried.within` — every attempt is accounted for
* `Retry.Tried.length_mul_le` — how many attempts there are, if all fail at once
* `Retry.attempts_are_accounted_for`
* `Retry.ends_iff_paced`
-/

namespace FeedLink

deriving instance DecidableEq for Verdict

theorem Duration.add_zero (d : Duration) : d + .zero = d := rfl

/-- An attempt takes no time, and can be made again. -/
def Trial.FailsAtOnce {ε α : Type} (trial : Trial ε α) : Prop :=
  trial.takes = .zero ∧ ∃ e, trial.outcome = .transient e

/-! ### Schedules whose delays last no time -/

/-- The delays of a schedule last no time, and go on so. -/
structure Backoff.Stalled (b : Backoff) : Prop where
  interval_eq : b.interval.millis = 0
  delay_zero : b.schedule.growth.delay 0 = 0
  next_zero : b.schedule.growth.next 0 = 0

theorem Backoff.Stalled.next {b b' : Backoff} {now delay : Duration} (hb : b.Stalled)
    (hnext : b.next now = (some delay, b')) : delay = .zero ∧ b'.Stalled := by
  obtain ⟨hinterval, hdelay, hgrowth⟩ := hb
  have hleft := (of_next_eq_some hnext).1
  rw [next_of_left hleft, hinterval, hdelay] at hnext
  obtain ⟨hsome, rfl⟩ := Prod.mk.inj hnext
  refine ⟨?_, ?_, hdelay, hgrowth⟩
  · obtain rfl := Option.some.inj hsome
    exact congrArg Duration.mk (Nat.zero_min _)
  · rw [Duration.millis_ofMillis, hgrowth]

/-- Under the standard growth, nothing stays nothing. -/
theorem BackoffConfig.stalled_bounded {initial : Duration} (ceiling now : Duration)
    (hinitial : initial.millis = 0) :
    (Backoff.start (bounded initial ceiling).schedule now).Stalled := by
  refine ⟨hinitial, ?_, ?_⟩
  · change standard.growth.delay 0 = 0
    decide +kernel
  · change standard.growth.next 0 = 0
    decide +kernel

namespace Retry

variable {ε α : Type} {b : Backoff} {now : Duration} {trials : List (Trial ε α)}
  {calls : List Duration} {verdict : Verdict ε α}

/-! ### How a run comes about -/

/-- How a run comes about, under a clock on which sleeping takes as long as was asked for. -/
inductive Tried :
    Backoff → Duration → List (Trial ε α) → List Duration → Verdict ε α → Prop
  /-- The operation goes on. -/
  | pending {b : Backoff} {now : Duration} : Tried b now [] [] .pending
  | success {b : Backoff} {now : Duration} {trial : Trial ε α} {rest : List (Trial ε α)} {a : α}
      (succeeds : trial.outcome = .success a) : Tried b now (trial :: rest) [now] (.success a)
  | permanent {b : Backoff} {now : Duration} {trial : Trial ε α} {rest : List (Trial ε α)} {e : ε}
      (fails : trial.outcome = .permanent e) : Tried b now (trial :: rest) [now] (.permanent e)
  | exhausted {b : Backoff} {now : Duration} {trial : Trial ε α} {rest : List (Trial ε α)} {e : ε}
      (fails : trial.outcome = .transient e)
      (spent : b.schedule.ceiling ≤ b.elapsed (now + trial.takes)) :
      Tried b now (trial :: rest) [now]
        (.exhausted e (b.attempt + 1) (b.elapsed (now + trial.takes)))
  | again {b b' : Backoff} {now delay : Duration} {trial : Trial ε α} {rest : List (Trial ε α)}
      {e : ε} {calls : List Duration} {verdict : Verdict ε α}
      (fails : trial.outcome = .transient e)
      (left : b.next (now + trial.takes) = (some delay, b'))
      (later : Tried b' (now + trial.takes + delay) rest calls verdict) :
      Tried b now (trial :: rest) (now :: calls) verdict

/-- **A run comes about by the rules.** -/
theorem tried_run (b : Backoff) (now : Duration) (trials : List (Trial ε α)) :
    Tried b now trials (run .exact b now trials).1 (run .exact b now trials).2 := by
  induction trials generalizing b now with
  | nil => exact .pending
  | cons trial rest ih =>
    have hdone : (if trial.takes = .zero then now else Clock.exact now trial.takes) =
        now + trial.takes := by
      split
      · next hzero => exact hzero ▸ rfl
      · rfl
    unfold run
    simp only [hdone]
    cases houtcome : trial.outcome with
    | success a => exact .success houtcome
    | permanent e => exact .permanent houtcome
    | transient e =>
      unfold afterFailure
      cases hnext : b.next (now + trial.takes) with
      | mk delay? b' =>
        cases delay? with
        | some delay => exact .again houtcome hnext (ih b' _)
        | none =>
          have hspent := Backoff.next_eq_none_iff.mp (congrArg Prod.fst hnext)
          obtain rfl : b = b' := congrArg Prod.snd ((Backoff.next_of_spent hspent).symm.trans hnext)
          exact .exhausted houtcome hspent

/-! ### Every attempt is accounted for -/

/-- How the end of an operation becomes the end of a run, after so many attempts and so much
time. -/
inductive Ends (ceiling : Duration) (attempts : ℕ) (elapsed : Duration) :
    Attempt ε α → Verdict ε α → Prop
  | success {a : α} : Ends ceiling attempts elapsed (.success a) (.success a)
  | permanent {e : ε} : Ends ceiling attempts elapsed (.permanent e) (.permanent e)
  | exhausted {e : ε} (spent : ceiling ≤ elapsed) :
      Ends ceiling attempts elapsed (.transient e) (.exhausted e attempts elapsed)

section Ends

variable {ceiling elapsed : Duration} {attempts : ℕ} {outcome : Attempt ε α}

theorem Ends.success_iff (h : Ends ceiling attempts elapsed outcome verdict) {a : α} :
    verdict = .success a ↔ outcome = .success a := by
  cases h <;> simp

theorem Ends.permanent_iff (h : Ends ceiling attempts elapsed outcome verdict) {e : ε} :
    verdict = .permanent e ↔ outcome = .permanent e := by
  cases h <;> simp

theorem Ends.of_transient {e : ε} (h : Ends ceiling attempts elapsed (.transient e) verdict) :
    verdict = .exhausted e attempts elapsed ∧ ceiling ≤ elapsed := by
  cases h with
  | exhausted hspent => exact ⟨rfl, hspent⟩

end Ends

/-- A run that has ended made its attempts in order: all but the last failed, and could be made
again, and the last one decides. -/
theorem Tried.accounts (h : Tried b now trials calls verdict) (hended : verdict ≠ .pending) :
    ∃ before last after call, trials = before ++ last :: after ∧
      calls.length = before.length + 1 ∧ calls.getLast? = some call ∧
      (∀ trial ∈ before, ∃ e, trial.outcome = .transient e) ∧
      Ends b.schedule.ceiling (b.attempt + calls.length) (call + last.takes - b.started)
        last.outcome verdict := by
  induction h with
  | pending => contradiction
  | @success _ now trial rest _ hsucceeds =>
    exact ⟨[], trial, rest, now, rfl, rfl, rfl, by simp, hsucceeds ▸ .success⟩
  | @permanent _ now trial rest _ hfails =>
    exact ⟨[], trial, rest, now, rfl, rfl, rfl, by simp, hfails ▸ .permanent⟩
  | @exhausted _ now trial rest _ hfails hspent =>
    exact ⟨[], trial, rest, now, rfl, rfl, rfl, by simp, hfails ▸ .exhausted hspent⟩
  | @again b b' now _ trial _ e calls _ hfails hleft hlater ih =>
    obtain ⟨before, last, after, call, rfl, hlength, hcall, hbefore, hends⟩ := ih hended
    obtain ⟨-, -, hschedule, hstarted, hattempt⟩ := Backoff.of_next_eq_some hleft
    refine ⟨trial :: before, last, after, call, rfl, ?_, ?_, ?_, ?_⟩
    · rw [List.length_cons, hlength, List.length_cons]
    · rw [List.getLast?_cons, hcall]
      rfl
    · exact List.forall_mem_cons.mpr ⟨⟨e, hfails⟩, hbefore⟩
    · rw [hschedule, hstarted, hattempt] at hends
      rw [List.length_cons, Nat.add_comm calls.length, ← Nat.add_assoc]
      exact hends

/-- No attempt begins after the ceiling. -/
theorem Tried.within (h : Tried b now trials calls verdict) (hstarted : b.started ≤ now)
    (hnow : now ≤ b.started + b.schedule.ceiling) :
    ∀ call ∈ calls, b.started ≤ call ∧ call ≤ b.started + b.schedule.ceiling := by
  induction h with
  | pending => simp
  | success | permanent | exhausted => simpa using ⟨hstarted, hnow⟩
  | @again b b' now delay trial _ _ _ _ _ hleft hlater ih =>
    obtain ⟨-, hcut, hschedule, hbegun, -⟩ := Backoff.of_next_eq_some hleft
    rw [hschedule, hbegun] at ih
    refine List.forall_mem_cons.mpr ⟨⟨hstarted, hnow⟩, ih ?_ ?_⟩
    · simp only [Duration.le_def, Duration.nanos_add] at hstarted ⊢
      omega
    · simp only [Duration.le_def, Duration.nanos_add, Backoff.elapsed, Duration.nanos_sub]
        at hstarted hcut ⊢
      omega

/-- The first attempt begins at once. -/
theorem Tried.head?_calls (h : Tried b now trials calls verdict) (htrials : trials ≠ []) :
    calls.head? = some now := by
  cases h with
  | pending => contradiction
  | success | permanent | exhausted | again => rfl

/-- A run that has not ended has made all the attempts there are. -/
theorem Tried.length_of_pending (h : Tried b now trials calls verdict)
    (hpending : verdict = .pending) : calls.length = trials.length := by
  induction h with
  | pending => rfl
  | success | permanent | exhausted => contradiction
  | again _ _ _ ih => rw [List.length_cons, ih hpending, List.length_cons]

/-- **Every attempt is accounted for.** A run that has ended made the attempts that come first in
the list: all of them but the last failed, and could be made again. If the last one succeeded, or
failed for good, so did the run. Otherwise the run has reached the ceiling, and says how many
attempts it made, what the last of them failed with, and how much time has passed since the run
began. The first attempt begins at once, and none begins after the ceiling. -/
theorem attempts_are_accounted_for (schedule : Schedule) (now : Duration)
    (hrun : start .exact schedule now trials = (calls, verdict)) (hended : verdict ≠ .pending) :
    ∃ before last after call, trials = before ++ last :: after ∧
      calls.length = before.length + 1 ∧ calls.head? = some now ∧ calls.getLast? = some call ∧
      (∀ trial ∈ before, ∃ e, trial.outcome = .transient e) ∧
      (∀ a, verdict = .success a ↔ last.outcome = .success a) ∧
      (∀ e, verdict = .permanent e ↔ last.outcome = .permanent e) ∧
      (∀ e, last.outcome = .transient e →
        verdict = .exhausted e calls.length (call + last.takes - now) ∧
          schedule.ceiling ≤ call + last.takes - now) ∧
      ∀ call ∈ calls, now ≤ call ∧ call ≤ now + schedule.ceiling := by
  have htried : Tried (.start schedule now) now trials calls verdict := by
    have hall := tried_run (.start schedule now) now trials
    rwa [show run .exact (.start schedule now) now trials = (calls, verdict) from hrun] at hall
  obtain ⟨before, last, after, call, rfl, hlength, hcall, hbefore, hends⟩ := htried.accounts hended
  refine ⟨before, last, after, call, rfl, hlength, htried.head?_calls (by simp), hcall, hbefore,
    fun a => hends.success_iff, fun e => hends.permanent_iff, fun e he => ?_,
    htried.within (Nat.le_refl _) (Nat.le_add_right ..)⟩
  rw [he] at hends
  simpa only [Backoff.start, Nat.zero_add] using hends.of_transient

/-- An operation that never succeeds. -/
def threeFailures : List (Trial String Unit) :=
  [⟨.zero, .transient "a"⟩, ⟨.zero, .transient "b"⟩, ⟨.ofMillis 7, .transient "c"⟩]

/-- It is tried three times in 150 ms: after the first delay, of 105 ms, the next one is cut short,
and the last attempt ends after the ceiling. -/
theorem three_attempts_until_ceiling :
    let schedule := (BackoffConfig.bounded (.ofMillis 100) (.ofMillis 150)).schedule
    start .exact schedule .zero threeFailures =
        ([.zero, .ofMillis 105, .ofMillis 150], .exhausted "c" 3 (.ofMillis 157)) ∧
      ∀ call ∈ [.zero, .ofMillis 105, .ofMillis 150],
        Duration.zero ≤ call ∧ call ≤ Duration.zero + .ofMillis 150 := by
  intro schedule
  have hrun : start .exact schedule .zero threeFailures =
      ([.zero, .ofMillis 105, .ofMillis 150], .exhausted "c" 3 (.ofMillis 157)) := by
    decide +kernel
  obtain ⟨-, -, -, -, -, -, -, -, -, -, -, -, hwithin⟩ :=
    attempts_are_accounted_for schedule .zero hrun (by simp)
  exact ⟨hrun, hwithin⟩

/-! ### Runs whose attempts all fail at once -/

variable {schedule : Schedule} {least : ℕ}

/-- So many attempts of an operation that fails each time, in no time. -/
def failing (op : ℕ → ε) (n : ℕ) : List (Trial ε α) :=
  (List.range n).map fun i => ⟨.zero, .transient (op i)⟩

@[simp] theorem length_failing (op : ℕ → ε) (n : ℕ) :
    (failing op n : List (Trial ε α)).length = n := by
  simp [failing]

theorem failsAtOnce_of_mem_failing (op : ℕ → ε) (n : ℕ) :
    ∀ trial ∈ (failing op n : List (Trial ε α)), trial.FailsAtOnce := by
  intro trial hmem
  obtain ⟨i, -, rfl⟩ := List.mem_map.mp hmem
  exact ⟨rfl, _, rfl⟩

/-- From the ceiling on there is one attempt at most. -/
theorem Tried.length_le_one (h : Tried b now trials calls verdict)
    (hspent : b.schedule.ceiling ≤ b.elapsed now) (hfail : ∀ trial ∈ trials, trial.FailsAtOnce) :
    calls.length ≤ 1 := by
  cases h with
  | pending => exact Nat.zero_le _
  | success | permanent | exhausted => exact Nat.le_refl _
  | @again _ _ _ _ trial _ _ _ _ _ hleft =>
    rw [(hfail trial (List.mem_cons_self ..)).1, Duration.add_zero, Backoff.next_of_spent hspent]
      at hleft
    simp at hleft

/-- **How many attempts there are before the ceiling**: each takes a pace of the time that is left,
but for the first one and the one at the ceiling. -/
theorem Tried.length_mul_le (h : Tried b now trials calls verdict)
    (hb : b.Steady schedule least) (hkeeps : schedule.growth.Keeps least)
    (hstarted : b.started ≤ now) (hfail : ∀ trial ∈ trials, trial.FailsAtOnce) :
    calls.length * (least * 1000000) ≤
      (schedule.ceiling.nanos - (b.elapsed now).nanos) + 2 * (least * 1000000) := by
  induction h with
  | pending => exact (Nat.zero_mul _).trans_le (Nat.zero_le _)
  | success | permanent | exhausted => rw [List.length_singleton]; omega
  | @again b b' now delay trial rest _ calls _ _ hleft hlater ih =>
    obtain ⟨hfirst, hrest⟩ := List.forall_mem_cons.mp hfail
    rw [hfirst.1, Duration.add_zero] at hleft hlater ih
    obtain ⟨hb', hstarted', -, hdelay⟩ := hb.next hkeeps hleft
    obtain ⟨hceiling, hcut, -, -, -⟩ := Backoff.of_next_eq_some hleft
    rw [hb.schedule_eq] at hceiling hcut
    have helapsed : b'.elapsed (now + delay) = b.elapsed now + delay := by
      rw [Backoff.elapsed, hstarted']
      exact congrArg Duration.mk (Nat.sub_add_comm hstarted)
    rw [List.length_cons, Nat.add_mul, Nat.one_mul]
    rcases hdelay with hlong | hlast
    · have hafter := ih hb' (hstarted'.symm ▸ hstarted.trans (Nat.le_add_right ..)) hrest
      rw [helapsed, Duration.nanos_add] at hafter
      simp only [Duration.le_def, Duration.nanos_add] at hcut
      omega
    · -- the delay was cut, so that the next attempt is the one at the ceiling
      have hspent : b'.schedule.ceiling ≤ b'.elapsed (now + delay) := by
        rw [hb'.schedule_eq, helapsed]
        simp only [Duration.le_def, Duration.nanos_add, Backoff.elapsed, Duration.nanos_sub]
        omega
      have hone := Nat.mul_le_mul_right (least * 1000000)
        (hlater.length_le_one hspent hrest)
      omega

/-- If delays last, each attempt begins later than the ones before. -/
theorem Tried.pairwise_lt (h : Tried b now trials calls verdict) (hb : b.Steady schedule least)
    (hkeeps : schedule.growth.Keeps least) (hpos : 0 < least) :
    (∀ call ∈ calls, now ≤ call) ∧ calls.Pairwise (· < ·) := by
  induction h with
  | pending => simp
  | success | permanent | exhausted => simp [Duration.le_def]
  | @again b b' now delay trial rest _ calls _ _ hleft hlater ih =>
    obtain ⟨hb', -, hceiling, hdelay⟩ := hb.next hkeeps hleft
    obtain ⟨hlater, hsorted⟩ := ih hb'
    have hlt : now < now + trial.takes + delay := by
      simp only [Duration.lt_def, Duration.nanos_add] at hceiling hdelay ⊢
      omega
    have hall : ∀ call ∈ calls, now < call := fun call hcall =>
      Nat.lt_of_lt_of_le hlt (hlater call hcall)
    refine ⟨List.forall_mem_cons.mpr ⟨Nat.le_refl _, fun call hcall => ?_⟩,
      List.pairwise_cons.mpr ⟨hall, hsorted⟩⟩
    exact Nat.le_of_lt (hall call hcall)

/-- **Under delays of no time, attempts that fail at once go on for ever**: each begins when the
first one did. -/
theorem Tried.of_stalled (h : Tried b now trials calls verdict) (hb : b.Stalled)
    (hleft : b.elapsed now < b.schedule.ceiling) (hfail : ∀ trial ∈ trials, trial.FailsAtOnce) :
    calls = List.replicate trials.length now ∧ verdict = .pending := by
  induction h with
  | pending => exact ⟨rfl, rfl⟩
  | @success _ _ trial _ _ hends | @permanent _ _ trial _ _ hends =>
    obtain ⟨-, e, htransient⟩ := hfail trial (List.mem_cons_self ..)
    rw [htransient] at hends
    contradiction
  | @exhausted _ _ trial _ _ _ hspent =>
    rw [(hfail trial (List.mem_cons_self ..)).1, Duration.add_zero] at hspent
    exact absurd hleft (Nat.not_lt_of_le hspent)
  | @again b b' now delay trial rest _ calls _ _ hnext hlater ih =>
    obtain ⟨hfirst, hrest⟩ := List.forall_mem_cons.mp hfail
    rw [hfirst.1, Duration.add_zero] at hnext ih
    obtain ⟨rfl, hb'⟩ := hb.next hnext
    obtain ⟨-, -, hschedule, hstarted, -⟩ := Backoff.of_next_eq_some hnext
    rw [Duration.add_zero] at ih
    obtain ⟨rfl, hpending⟩ := ih hb' (by rwa [Backoff.elapsed, hstarted, hschedule]) hrest
    exact ⟨rfl, hpending⟩

/-- A run of such attempts that ends is exhausted. -/
theorem Tried.exhausted_of_failsAtOnce (h : Tried b now trials calls verdict)
    (hended : verdict ≠ .pending) (hfail : ∀ trial ∈ trials, trial.FailsAtOnce) :
    ∃ last attempts elapsed,
      verdict = .exhausted last attempts elapsed ∧ b.schedule.ceiling ≤ elapsed := by
  obtain ⟨before, last, after, call, rfl, -, -, -, hends⟩ := h.accounts hended
  obtain ⟨-, e, he⟩ := hfail last (by simp)
  rw [he] at hends
  obtain ⟨hverdict, hspent⟩ := hends.of_transient
  exact ⟨e, _, _, hverdict, hspent⟩

/-- Without a pace, an operation that fails each time in no time is tried for ever. -/
theorem start_failing_of_unpaced {initial ceiling : Duration} (now : Duration)
    (hinitial : initial.millis = 0) (hceiling : 0 < ceiling.nanos) (op : ℕ → ε) (n : ℕ) :
    (start .exact (BackoffConfig.bounded initial ceiling).schedule now (failing op n) :
        List Duration × Verdict ε α) = (List.replicate n now, .pending) := by
  have htried := tried_run (.start (BackoffConfig.bounded initial ceiling).schedule now) now
    (failing op n : List (Trial ε α))
  have hleft : (Backoff.start (BackoffConfig.bounded initial ceiling).schedule now).elapsed now <
      ceiling := (Nat.sub_self now.nanos).trans_lt hceiling
  obtain ⟨hcalls, hpending⟩ := htried.of_stalled (BackoffConfig.stalled_bounded ceiling now hinitial)
    hleft (failsAtOnce_of_mem_failing op n)
  rw [length_failing] at hcalls
  exact Prod.ext hcalls hpending

/-- With a pace, it is tried so many times at most, each later than the one before, and then gives
up. -/
theorem start_failing_of_paced {initial ceiling : Duration} (now : Duration)
    (hinitial : 0 < initial.millis) (op : ℕ → ε) (n : ℕ) :
    let tried : List Duration × Verdict ε α :=
      start .exact (BackoffConfig.bounded initial ceiling).schedule now (failing op n)
    let most := ceiling.nanos / (Duration.ofMillis (min initial.millis 10000)).nanos + 2
    tried.1.length ≤ most ∧ tried.1.Pairwise (· < ·) ∧
      (most < n → ∃ last attempts elapsed,
        tried.2 = .exhausted last attempts elapsed ∧ ceiling ≤ elapsed) := by
  intro tried most
  have htried : Tried (.start (BackoffConfig.bounded initial ceiling).schedule now) now
      (failing op n) tried.1 tried.2 := tried_run _ _ _
  have hpos : 0 < min initial.millis 10000 := lt_min hinitial (by decide)
  have hsteady : (Backoff.start (BackoffConfig.bounded initial ceiling).schedule now).Steady
      (BackoffConfig.bounded initial ceiling).schedule (min initial.millis 10000) :=
    Backoff.steady_start (min_le_left ..) now
  have hkeeps := BackoffConfig.keeps_bounded initial ceiling hpos (min_le_right ..)
  have hfail : ∀ trial ∈ (failing op n : List (Trial ε α)), trial.FailsAtOnce :=
    failsAtOnce_of_mem_failing op n
  have hmost : tried.1.length ≤ most := by
    have hmul := htried.length_mul_le hsteady hkeeps (Nat.le_refl _) hfail
    have hpace : 0 < (Duration.ofMillis (min initial.millis 10000)).nanos :=
      Nat.mul_pos hpos (by decide)
    change tried.1.length ≤ ceiling.nanos / (Duration.ofMillis _).nanos + 2
    rw [← Nat.add_mul_div_right _ _ hpace, Nat.le_div_iff_mul_le hpace]
    exact hmul.trans (Nat.add_le_add_right (Nat.sub_le ..) _)
  refine ⟨hmost, (htried.pairwise_lt hsteady hkeeps hpos).2, fun hn => ?_⟩
  refine htried.exhausted_of_failsAtOnce (fun hpending => ?_) hfail
  have hlength := htried.length_of_pending hpending
  rw [length_failing] at hlength
  omega

/-- **Trying ends if and only if it is paced.** Under the standard growth, an operation that fails
each time in no time is tried a bounded number of times if and only if the first interval lasts a
millisecond, or there is no time at all. If it lasts that long, each attempt begins later than the
one before, there is one for each interval that fits under the ceiling and two more, where an
interval counts as ten seconds if it is longer, and the run then ends at the ceiling. -/
theorem ends_iff_paced (initial ceiling now : Duration) (op : ℕ → ε) :
    let tried (n : ℕ) : List Duration × Verdict ε α :=
      start .exact (BackoffConfig.bounded initial ceiling).schedule now (failing op n)
    let most := ceiling.nanos / (Duration.ofMillis (min initial.millis 10000)).nanos + 2
    ((∃ most, ∀ n, (tried n).1.length ≤ most) ↔ .ofMillis 1 ≤ initial ∨ ceiling = .zero) ∧
    (.ofMillis 1 ≤ initial → ∀ n,
      (tried n).1.length ≤ most ∧ (tried n).1.Pairwise (· < ·) ∧
        (most < n → ∃ last attempts elapsed,
          (tried n).2 = .exhausted last attempts elapsed ∧ ceiling ≤ elapsed)) := by
  intro tried most
  have hpaced : .ofMillis 1 ≤ initial ↔ 0 < initial.millis := by
    rw [Duration.le_def, Duration.nanos_ofMillis, Duration.millis]
    omega
  refine ⟨⟨?_, ?_⟩, fun h => start_failing_of_paced now (hpaced.mp h) op⟩
  · rintro ⟨most, hmost⟩
    rw [hpaced]
    by_contra hneither
    obtain ⟨hinitial, hceiling⟩ := not_or.mp hneither
    have hpos : 0 < ceiling.nanos :=
      Nat.pos_of_ne_zero fun h => hceiling (congrArg Duration.mk h)
    have hlength := hmost (most + 1)
    simp only [tried, start_failing_of_unpaced now (Nat.eq_zero_of_not_pos hinitial) hpos,
      List.length_replicate] at hlength
    omega
  · rintro (hinitial | rfl)
    · exact ⟨most, fun n => (start_failing_of_paced now (hpaced.mp hinitial) op n).1⟩
    · refine ⟨1, fun n => ?_⟩
      have htried := tried_run (.start (BackoffConfig.bounded initial .zero).schedule now) now
        (failing op n : List (Trial ε α))
      exact htried.length_le_one (Nat.zero_le _) (failsAtOnce_of_mem_failing op n)

/-- Under intervals of two milliseconds, at least, and a ceiling of five, a fifth attempt is not
made. -/
theorem no_fifth_attempt_in_five_millis :
    let tried : List Duration × Verdict String Unit :=
      start .exact (BackoffConfig.bounded (.ofMillis 2) (.ofMillis 5)).schedule .zero
        (failing (fun _ => "refused") 5)
    tried.1.length ≤ 4 ∧ ∃ last attempts elapsed,
      tried.2 = .exhausted last attempts elapsed ∧ .ofMillis 5 ≤ elapsed := by
  obtain ⟨-, hends⟩ := @ends_iff_paced String Unit (.ofMillis 2) (.ofMillis 5) .zero
    fun _ => "refused"
  obtain ⟨hmost, -, hexhausted⟩ := hends (by decide) 5
  exact ⟨hmost, hexhausted (by decide)⟩

/-- **An interval of nothing is followed by attempts without end**, however short the ceiling. -/
theorem tried_for_ever_without_interval :
    ¬∃ most, ∀ n,
      (start .exact (BackoffConfig.bounded .zero (.ofMillis 1)).schedule .zero
        (failing (fun _ => "refused") n) : List Duration × Verdict String Unit).1.length ≤ most := by
  rintro ⟨most, hmost⟩
  have hlength := hmost (most + 1)
  rw [start_failing_of_unpaced .zero rfl (by decide), List.length_replicate] at hlength
  omega

end Retry

end FeedLink
