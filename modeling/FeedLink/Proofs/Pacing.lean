import FeedLink.Backoff
import Mathlib.Logic.Function.Iterate

/-!
# A schedule over its whole history

A schedule that was started is asked for delays, is started over, and gets older, in any order. What
it answers depends on two numbers only, both counted from the last time it was started: the time
that has passed, and how many delays were handed out. `Tally` counts them on the outside, from what
was done and what was seen, and `Pacer.Follows` says that the schedule agrees with the count.

Nothing is supposed of the arithmetic of a schedule: a `Growth` takes milliseconds to milliseconds
in any way at all. The ceiling holds because of what is done with the delay afterwards.

## Main definitions

* `Schedule.interval` — the intervals that a schedule goes through
* `Pacer`, `Pacer.Use`, `Pacer.log` — a schedule with a clock, what is done to it, and what is seen
* `Tally` — the time and the delays since the schedule was last started
* `Pacer.Follows` — a schedule agrees with a tally
* `Pacer.Alike` — two schedules are equally far

## Main results

* `Pacer.follows_log` — a schedule agrees with the tally of its history
* `Pacer.Follows.delay_of_mem_log` — every delay is that of an interval
* `Pacer.Alike.log` — two schedules that are equally far answer alike
* `Pacer.schedule_answers_its_tally`
-/

namespace FeedLink

/-- The intervals that a schedule goes through, in milliseconds. -/
def Schedule.interval (schedule : Schedule) (k : ℕ) : ℕ :=
  schedule.growth.next^[k] schedule.initial.millis

/-! ### One delay -/

namespace Backoff

variable {b : Backoff} {now : Duration}

/-- From the ceiling on there is no delay, and nothing changes. -/
theorem next_of_spent (h : b.schedule.ceiling ≤ b.elapsed now) : b.next now = (none, b) := if_pos h

/-- Before the ceiling there is one, which is cut at the ceiling. -/
theorem next_of_left (h : b.elapsed now < b.schedule.ceiling) :
    b.next now =
      (some (min (.ofMillis (b.schedule.growth.delay b.interval.millis))
          (b.schedule.ceiling - b.elapsed now)),
        { b with
          interval := .ofMillis (b.schedule.growth.next b.interval.millis)
          attempt := b.attempt + 1 }) :=
  if_neg (Nat.not_le_of_lt h)

theorem left_or_spent (b : Backoff) (now : Duration) :
    b.elapsed now < b.schedule.ceiling ∨ b.schedule.ceiling ≤ b.elapsed now :=
  Nat.lt_or_ge ..

theorem next_eq_none_iff : (b.next now).1 = none ↔ b.schedule.ceiling ≤ b.elapsed now := by
  rcases b.left_or_spent now with hleft | hspent
  · rw [next_of_left hleft]
    exact ⟨fun h => absurd h (by simp), fun h => absurd hleft (Nat.not_lt_of_le h)⟩
  · rw [next_of_spent hspent]
    exact ⟨fun _ => hspent, fun _ => rfl⟩

/-- **What comes of a delay that is handed out**: the ceiling was not reached, and the delay ends
there or before; it is counted, and the schedule stays started. -/
theorem of_next_eq_some {delay : Duration} {b' : Backoff} (h : b.next now = (some delay, b')) :
    b.elapsed now < b.schedule.ceiling ∧ b.elapsed now + delay ≤ b.schedule.ceiling ∧
      b'.schedule = b.schedule ∧ b'.started = b.started ∧ b'.attempt = b.attempt + 1 := by
  rcases b.left_or_spent now with hleft | hspent
  · rw [next_of_left hleft] at h
    obtain ⟨hdelay, rfl⟩ := Prod.mk.inj h
    obtain rfl := Option.some.inj hdelay
    refine ⟨hleft, ?_, rfl, rfl, rfl⟩
    rw [Duration.lt_def] at hleft
    rw [Duration.le_def, Duration.nanos_add, Duration.nanos_min, Duration.nanos_sub]
    omega
  · rw [next_of_spent hspent] at h
    simp at h

theorem next_eq_some {delay : Duration} (h : (b.next now).1 = some delay) :
    b.next now = (some delay, (b.next now).2) := Prod.ext h rfl

end Backoff

/-! ### Histories -/

/-- A schedule that was started, and the time. -/
structure Pacer where
  backoff : Backoff
  now : Duration

namespace Pacer

/-- What is done to a schedule that was started. -/
inductive Use where
  /-- It is asked for a delay. -/
  | next
  /-- It is started over. -/
  | reset
  /-- Time passes. -/
  | advance (span : Duration)
deriving DecidableEq, Repr

/-- What is seen of a schedule: the delay that it hands out, if it does, how many it has handed out,
and the time since it was started. -/
structure Reading where
  delay : Option Duration
  attempt : ℕ
  elapsed : Duration
deriving DecidableEq, Repr

/-- A schedule that is started now. -/
def start (schedule : Schedule) (now : Duration) : Pacer := ⟨.start schedule now, now⟩

/-- A schedule after a use. -/
def use (p : Pacer) : Use → Pacer
  | .next => { p with backoff := (p.backoff.next p.now).2 }
  | .reset => { p with backoff := p.backoff.reset p.now }
  | .advance span => { p with now := p.now + span }

/-- The delay that a use hands out. -/
def delay? (p : Pacer) : Use → Option Duration
  | .next => (p.backoff.next p.now).1
  | .reset | .advance _ => none

/-- What a use lets see. -/
def reading (p : Pacer) (u : Use) : Reading :=
  ⟨p.delay? u, (p.use u).backoff.attempt, (p.use u).backoff.elapsed (p.use u).now⟩

/-- A schedule after some uses. -/
def after (p : Pacer) (uses : List Use) : Pacer := uses.foldl use p

/-- The uses, each with what it lets see. -/
def log (p : Pacer) : List Use → List (Use × Reading)
  | [] => []
  | u :: rest => (u, p.reading u) :: (p.use u).log rest

variable {p p' : Pacer} {schedule : Schedule} {u : Use} {uses : List Use}

@[simp] theorem after_nil (p : Pacer) : p.after [] = p := rfl

@[simp] theorem after_cons (p : Pacer) (u : Use) (rest : List Use) :
    p.after (u :: rest) = (p.use u).after rest := rfl

end Pacer

/-- What was counted of a schedule since it was last started. -/
structure Tally where
  passed : Duration
  handedOut : ℕ
deriving DecidableEq, Repr

namespace Tally

/-- Nothing was counted yet. -/
def zero : Tally := ⟨.zero, 0⟩

/-- Counts a use and what it let see. -/
def note (t : Tally) : Pacer.Use × Pacer.Reading → Tally
  | (.next, reading) => { t with handedOut := t.handedOut + reading.delay.toList.length }
  | (.reset, _) => zero
  | (.advance span, _) => { t with passed := t.passed + span }

/-- The count of a history. -/
def ofLog (log : List (Pacer.Use × Pacer.Reading)) : Tally := log.foldl note zero

end Tally

/-! ### A schedule agrees with its tally -/

namespace Pacer

variable {p p' : Pacer} {schedule : Schedule} {t : Tally} {u : Use} {uses : List Use}

/-- A schedule agrees with a tally. -/
structure Follows (schedule : Schedule) (t : Tally) (p : Pacer) : Prop where
  schedule_eq : p.backoff.schedule = schedule
  started_add : p.backoff.started + t.passed = p.now
  attempt_eq : p.backoff.attempt = t.handedOut
  /-- Each delay that was handed out has made the interval grow once. -/
  interval_eq : p.backoff.interval.millis = schedule.interval t.handedOut

theorem follows_start (schedule : Schedule) (now : Duration) :
    (start schedule now).Follows schedule .zero := ⟨rfl, rfl, rfl, rfl⟩

theorem Follows.elapsed_eq (hp : p.Follows schedule t) : p.backoff.elapsed p.now = t.passed := by
  have hnow := congrArg Duration.nanos hp.started_add
  have hnanos : (p.backoff.elapsed p.now).nanos = t.passed.nanos := by
    rw [Backoff.elapsed, Duration.nanos_sub, ← hnow, Duration.nanos_add, Nat.add_sub_cancel_left]
  exact congrArg Duration.mk hnanos

theorem Follows.next_eq_none_iff (hp : p.Follows schedule t) :
    (p.backoff.next p.now).1 = none ↔ schedule.ceiling ≤ t.passed := by
  rw [Backoff.next_eq_none_iff, hp.schedule_eq, hp.elapsed_eq]

/-- The delay that is handed out next, before the ceiling. -/
theorem Follows.next_of_left (hp : p.Follows schedule t) (hleft : t.passed < schedule.ceiling) :
    (p.backoff.next p.now).1 =
      some (min (.ofMillis (schedule.growth.delay (schedule.interval t.handedOut)))
        (schedule.ceiling - t.passed)) := by
  obtain ⟨rfl, -, -, hinterval⟩ := id hp
  rw [← hp.elapsed_eq] at hleft ⊢
  rw [Backoff.next_of_left hleft, hinterval]

/-- **A use keeps the agreement.** -/
theorem Follows.use (hp : p.Follows schedule t) (u : Use) :
    (p.use u).Follows schedule (t.note (u, p.reading u)) := by
  obtain ⟨hschedule, hstarted, hattempt, hinterval⟩ := hp
  cases u with
  | advance span =>
    refine ⟨hschedule, ?_, hattempt, hinterval⟩
    change p.backoff.started + (t.passed + span) = p.now + span
    rw [← hstarted]
    exact congrArg Duration.mk (Nat.add_assoc ..).symm
  | reset =>
    have hinitial : (p.backoff.reset p.now).schedule = schedule := hschedule
    exact ⟨hinitial, rfl, rfl, congrArg (·.initial.millis) hschedule⟩
  | next =>
    subst hschedule
    rcases p.backoff.left_or_spent p.now with hleft | hspent
    · have hnext := Backoff.next_of_left hleft
      have hdelay : (p.reading .next).delay.toList.length = 1 := by
        rw [reading, delay?, hnext]
        rfl
      refine ⟨?_, ?_, ?_, ?_⟩ <;> simp only [Pacer.use, hnext, Tally.note, hdelay]
      · exact hstarted
      · rw [hattempt]
      · rw [Duration.millis_ofMillis, hinterval, Schedule.interval, Schedule.interval,
          Function.iterate_succ_apply']
    · have hnext := Backoff.next_of_spent hspent
      have hdelay : (p.reading .next).delay.toList.length = 0 := by
        rw [reading, delay?, hnext]
        rfl
      refine ⟨?_, ?_, ?_, ?_⟩ <;> simp only [Pacer.use, hnext, Tally.note, hdelay, Nat.add_zero]
      · exact hstarted
      · exact hattempt
      · exact hinterval

/-- A history keeps the agreement. -/
theorem Follows.after (hp : p.Follows schedule t) (uses : List Use) :
    (p.after uses).Follows schedule ((p.log uses).foldl Tally.note t) := by
  induction uses generalizing p t with
  | nil => exact hp
  | cons u rest ih => exact ih (hp.use u)

/-- **A schedule agrees with the tally of its history.** -/
theorem follows_log (schedule : Schedule) (now : Duration) (uses : List Use) :
    ((start schedule now).after uses).Follows schedule
      (.ofLog ((start schedule now).log uses)) :=
  (follows_start schedule now).after uses

/-- Every delay of a history is that of an interval, cut short at the ceiling. -/
theorem Follows.delay_of_mem_log (hp : p.Follows schedule t) {entry : Use × Reading}
    (hentry : entry ∈ p.log uses) {delay : Duration} (hdelay : entry.2.delay = some delay) :
    ∃ k passed, delay = min (.ofMillis (schedule.growth.delay (schedule.interval k)))
      (schedule.ceiling - passed) := by
  induction uses generalizing p t with
  | nil => contradiction
  | cons u rest ih =>
    rcases List.mem_cons.mp hentry with rfl | hrest
    · cases u with
      | reset | advance => contradiction
      | next =>
        have hleft := (Backoff.of_next_eq_some (Backoff.next_eq_some hdelay)).1
        rw [hp.elapsed_eq, hp.schedule_eq] at hleft
        exact ⟨_, _, Option.some.inj (hdelay.symm.trans (hp.next_of_left hleft))⟩
    · exact ih (hp.use u) hrest

/-! ### From the ceiling on -/

/-- From the ceiling on no delay is handed out any more, until the schedule is started over. -/
theorem Follows.spent (hp : p.Follows schedule t) (hspent : schedule.ceiling ≤ t.passed)
    (hreset : .reset ∉ uses) :
    ∀ entry ∈ p.log uses, entry.2.delay = none ∧ entry.2.attempt = t.handedOut := by
  induction uses generalizing p t with
  | nil => simp [log]
  | cons u rest ih =>
    obtain ⟨hu, hrest⟩ := not_or.mp (List.mem_cons.not.mp hreset)
    have hafter := hp.use u
    cases u with
    | reset => exact absurd rfl hu
    | next =>
      have hnone : (p.reading .next).delay = none := hp.next_eq_none_iff.mpr hspent
      have htally : t.note (.next, p.reading .next) = t := by simp [Tally.note, hnone]
      rw [htally] at hafter
      exact List.forall_mem_cons.mpr ⟨⟨hnone, hafter.attempt_eq⟩, ih hafter hspent hrest⟩
    | advance span =>
      have hlater := ih hafter (Nat.le_add_right_of_le hspent) hrest
      exact List.forall_mem_cons.mpr ⟨⟨rfl, hafter.attempt_eq⟩, hlater⟩

/-! ### Two schedules -/

/-- Two schedules are equally far, whenever they were started. -/
structure Alike (p p' : Pacer) : Prop where
  schedule_eq : p.backoff.schedule = p'.backoff.schedule
  interval_eq : p.backoff.interval = p'.backoff.interval
  attempt_eq : p.backoff.attempt = p'.backoff.attempt
  passed_eq : ∃ passed, p.backoff.started + passed = p.now ∧ p'.backoff.started + passed = p'.now

theorem alike_start (schedule : Schedule) (now now' : Duration) :
    (start schedule now).Alike (start schedule now') := ⟨rfl, rfl, rfl, .zero, rfl, rfl⟩

theorem Alike.elapsed_eq (h : p.Alike p') :
    p.backoff.elapsed p.now = p'.backoff.elapsed p'.now := by
  obtain ⟨passed, hp, hp'⟩ := h.passed_eq
  refine congrArg Duration.mk ?_
  rw [← hp, ← hp', Duration.nanos_add, Duration.nanos_add, Nat.add_sub_cancel_left,
    Nat.add_sub_cancel_left]

/-- Two schedules that are equally far hand out the same delay. -/
theorem Alike.delay?_eq (h : p.Alike p') (u : Use) : p.delay? u = p'.delay? u := by
  cases u with
  | reset | advance => rfl
  | next =>
    simp only [delay?, Backoff.next, h.schedule_eq, h.interval_eq, h.elapsed_eq]
    split <;> rfl

/-- **They stay equally far.** -/
theorem Alike.use (h : p.Alike p') (u : Use) : (p.use u).Alike (p'.use u) := by
  obtain ⟨passed, hp, hp'⟩ := h.passed_eq
  cases u with
  | advance span =>
    refine ⟨h.schedule_eq, h.interval_eq, h.attempt_eq, passed + span, ?_, ?_⟩
    · exact congrArg Duration.mk ((Nat.add_assoc ..).symm.trans (by rw [← hp]; rfl))
    · exact congrArg Duration.mk ((Nat.add_assoc ..).symm.trans (by rw [← hp']; rfl))
  | reset =>
    refine ⟨h.schedule_eq, ?_, rfl, .zero, rfl, rfl⟩
    exact congrArg Schedule.initial h.schedule_eq
  | next =>
    have helapsed := h.elapsed_eq
    rcases p.backoff.left_or_spent p.now with hleft | hspent
    · have hleft' : p'.backoff.elapsed p'.now < p'.backoff.schedule.ceiling :=
        h.schedule_eq ▸ helapsed ▸ hleft
      simp only [Pacer.use, Backoff.next_of_left hleft, Backoff.next_of_left hleft']
      refine ⟨h.schedule_eq, ?_, congrArg (· + 1) h.attempt_eq, passed, hp, hp'⟩
      simp only [h.schedule_eq, h.interval_eq]
    · have hspent' : p'.backoff.schedule.ceiling ≤ p'.backoff.elapsed p'.now :=
        h.schedule_eq ▸ helapsed ▸ hspent
      simp only [Pacer.use, Backoff.next_of_spent hspent, Backoff.next_of_spent hspent']
      exact h

/-- **Two schedules that are equally far answer alike**, whatever is done to them. -/
theorem Alike.log (h : p.Alike p') (uses : List Use) : p.log uses = p'.log uses := by
  induction uses generalizing p p' with
  | nil => rfl
  | cons u rest ih =>
    have hafter := h.use u
    have hreading : p.reading u = p'.reading u := by
      simp only [reading, h.delay?_eq, hafter.attempt_eq, hafter.elapsed_eq]
    simp only [Pacer.log, hreading, ih hafter]

/-! ### The answers of a schedule -/

/-- **What a schedule answers follows from its tally.** After any history it has handed out as many
delays as were counted since it was last started. It refuses another one exactly if the time that
was counted has reached the ceiling; a refusal changes nothing, and everything is refused until the
schedule is started over. Otherwise the delay ends at the ceiling or before, where nothing is ever
taken from something smaller. And a schedule that is started over answers from there on like one
that was never used. -/
theorem schedule_answers_its_tally (schedule : Schedule) (now : Duration) (uses : List Use) :
    let p := (start schedule now).after uses
    let t := Tally.ofLog ((start schedule now).log uses)
    p.backoff.attempt = t.handedOut ∧
    ((p.backoff.next p.now).1 = none ↔ schedule.ceiling ≤ t.passed) ∧
    (schedule.ceiling ≤ t.passed → (p.backoff.next p.now).2 = p.backoff ∧
      ∀ later, .reset ∉ later → ∀ entry ∈ p.log later,
        entry.2.delay = none ∧ entry.2.attempt = t.handedOut) ∧
    (∀ delay, (p.backoff.next p.now).1 = some delay →
      p.backoff.started ≤ p.now ∧ p.now - p.backoff.started = t.passed ∧
        t.passed < schedule.ceiling ∧ t.passed + delay ≤ schedule.ceiling) ∧
    ∀ later now', (p.use .reset).log later = (start schedule now').log later := by
  intro p t
  have hp : p.Follows schedule t := follows_log schedule now uses
  refine ⟨hp.attempt_eq, hp.next_eq_none_iff, fun hspent => ⟨?_, fun later hreset => ?_⟩,
    fun delay hdelay => ?_, fun later now' => ?_⟩
  · rw [← hp.schedule_eq, ← hp.elapsed_eq] at hspent
    rw [Backoff.next_of_spent hspent]
  · exact hp.spent hspent hreset
  · have hstarted : p.backoff.started.nanos + t.passed.nanos = p.now.nanos :=
      congrArg Duration.nanos hp.started_add
    obtain ⟨hleft, hcut, -⟩ := Backoff.of_next_eq_some (Backoff.next_eq_some hdelay)
    rw [hp.elapsed_eq, hp.schedule_eq] at hleft hcut
    exact ⟨Nat.le.intro hstarted, hp.elapsed_eq, hleft, hcut⟩
  · have hreset : (p.use .reset).Alike (start p.backoff.schedule now') := alike_start _ _ _
    rw [hp.schedule_eq] at hreset
    exact hreset.log later

/-- A schedule that lasts for three nanoseconds, and does not grow. -/
def threeNanoseconds : Schedule := ⟨.ofMillis 1, ⟨3⟩, ⟨id, id⟩⟩

/-- Two nanoseconds after it was started over, three nanoseconds have one left, and after three they
hand out nothing any more. -/
theorem three_nanoseconds_run_out :
    let young := (start threeNanoseconds .zero).after [.next, .reset, .advance ⟨2⟩]
    let old := (start threeNanoseconds .zero).after [.next, .advance ⟨3⟩]
    ((young.backoff.next young.now).1 = some ⟨1⟩ ∧ young.now - young.backoff.started = ⟨2⟩) ∧
      (old.backoff.next old.now).2 = old.backoff ∧
        ∀ entry ∈ old.log [.next, .advance ⟨1⟩, .next],
          entry.2.delay = none ∧ entry.2.attempt = 1 := by
  intro young old
  have hyoung : (young.backoff.next young.now).1 = some ⟨1⟩ := by decide
  obtain ⟨-, -, -, hleft, -⟩ :=
    schedule_answers_its_tally threeNanoseconds .zero [.next, .reset, .advance ⟨2⟩]
  obtain ⟨-, -, hspent, -, -⟩ :=
    schedule_answers_its_tally threeNanoseconds .zero [.next, .advance ⟨3⟩]
  obtain ⟨-, helapsed, -⟩ := hleft ⟨1⟩ hyoung
  obtain ⟨hsame, hrefused⟩ := hspent (by decide)
  exact ⟨⟨hyoung, helapsed⟩, hsame, hrefused _ (by decide)⟩

end Pacer

end FeedLink
