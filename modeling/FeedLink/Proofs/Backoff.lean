import FeedLink.Proofs.Pacing
import FeedLink.Proofs.Rounding

/-!
# How often a schedule lets somebody try

A reader that redials and a receiver that opens its stream again do the same thing: they try at
once, pause after each failure for the delay that a schedule hands out, and try again, until an
attempt succeeds or the schedule is spent. `Phase` is what either of them is at, and `Phase.Run`
what it does in the course of any number of recoveries, each of which starts its schedule anew.

How many attempts fit into an interval is counted by credit. Every recovery is given two paces, and
every pace of time that goes by gives another one; an attempt costs one. The first attempt of a
recovery is free of delay, and so is its last one, whose delay is cut short at the ceiling: these
are the two that its credit pays for, and the others have waited for a pace of time.

## Main definitions

* `Growth.Keeps` — intervals of some length are followed by delays and intervals no shorter
* `Phase`, `Phase.Moves`, `Phase.Run` — attempts under a schedule
* `Affords` — the credit account
* `Phase.Steady`, `Phase.Solvent` — what a move keeps

## Main results

* `BackoffConfig.keeps_bounded` — the standard growth keeps intervals of up to ten seconds
* `Phase.Moves.steady`, `Phase.Moves.solvent`
* `Phase.attempts_le` — how many attempts fit into an interval
-/

namespace FeedLink

variable {least : ℕ}

/-- Intervals of at least so many milliseconds are followed by delays and intervals that are no
shorter. -/
def Growth.Keeps (g : Growth) (least : ℕ) : Prop :=
  ∀ n, least ≤ n → least ≤ g.delay n ∧ least ≤ g.next n

theorem BackoffConfig.keeps_bounded (initial ceiling : Duration) (hpos : 0 < least)
    (hmax : least ≤ 10000) : (bounded initial ceiling).growth.Keeps least :=
  fun _ hn => ⟨le_delay initial ceiling hpos (hmax.trans (by decide)) hn,
    le_next initial ceiling hpos hmax hn⟩

/-! ### One schedule -/

/-- The intervals of a schedule that was started are at least so many milliseconds. -/
structure Backoff.Steady (schedule : Schedule) (least : ℕ) (b : Backoff) : Prop where
  schedule_eq : b.schedule = schedule
  least_le : least ≤ b.interval.millis

namespace Backoff

variable {schedule : Schedule} {b b' : Backoff} {now delay : Duration}

theorem steady_start (h : least ≤ schedule.initial.millis) (now : Duration) :
    (start schedule now).Steady schedule least := ⟨rfl, h⟩

/-- **What comes of a delay that is handed out**: the ceiling was not reached, and the delay takes
as long as the intervals do, or up to the ceiling. -/
theorem Steady.next (hb : b.Steady schedule least) (hkeeps : schedule.growth.Keeps least)
    (hnext : b.next now = (some delay, b')) :
    b'.Steady schedule least ∧ b'.started = b.started ∧
      now.nanos - b.started.nanos < schedule.ceiling.nanos ∧
      (least * 1000000 ≤ delay.nanos ∨
        delay.nanos = schedule.ceiling.nanos - (now.nanos - b.started.nanos)) := by
  obtain ⟨rfl, hleast⟩ := hb
  obtain ⟨hdelay, hinterval⟩ := hkeeps _ hleast
  have hleft := (of_next_eq_some hnext).1
  rw [next_of_left hleft] at hnext
  obtain ⟨hdelayed, rfl⟩ := Prod.mk.inj hnext
  obtain rfl := Option.some.inj hdelayed
  refine ⟨⟨rfl, by simpa using hinterval⟩, rfl, hleft, ?_⟩
  simp only [Duration.nanos_min, Duration.nanos_ofMillis, elapsed, Duration.nanos_sub]
  rcases min_choice (b.schedule.growth.delay b.interval.millis * 1000000)
    (b.schedule.ceiling.nanos - (now.nanos - b.started.nanos)) with h | h
  · exact .inl (h.symm ▸ Nat.mul_le_mul_right _ hdelay)
  · exact .inr h

end Backoff

/-! ### Phases -/

/-- What somebody is at who recovers from losses under a schedule. -/
inductive Phase where
  | idle
  /-- An attempt has begun and not ended. -/
  | trying (backoff : Backoff)
  /-- The next attempt begins at some time. -/
  | waiting (backoff : Backoff) (wake : Duration)

namespace Phase

variable {schedule : Schedule} {now : Duration} {p p' p'' : Phase} {attempts : ℕ}

/-- Is a recovery running? -/
def isBusy : Phase → Bool
  | .idle => false
  | .trying _ | .waiting .. => true

/-- How many recoveries begin between two phases. -/
def begun (p p' : Phase) : ℕ := (!p.isBusy && p'.isBusy).toNat

/-- A phase follows on another, with so many attempts that begin. -/
inductive Moves (schedule : Schedule) (now : Duration) : Phase → Phase → ℕ → Prop
  | stay {p : Phase} : Moves schedule now p p 0
  /-- The recovery is over, one way or another. -/
  | leave {p : Phase} : Moves schedule now p .idle 0
  | begin : Moves schedule now .idle (.trying (.start schedule now)) 1
  | pause {b b' : Backoff} {delay : Duration} (left : b.next now = (some delay, b')) :
      Moves schedule now (.trying b) (.waiting b' (now + delay)) 0
  | wake {b : Backoff} {wake : Duration} (due : wake ≤ now) :
      Moves schedule now (.waiting b wake) (.trying b) 1

/-- Moves in turn, at some times: the attempts and the recoveries that begin in them. -/
inductive Run (schedule : Schedule) : Phase → List Duration → ℕ → ℕ → Phase → Prop
  | nil {p : Phase} : Run schedule p [] 0 0 p
  | cons {p p' p'' : Phase} {now : Duration} {times : List Duration}
      {attempts more recoveries : ℕ} (move : Moves schedule now p p' attempts)
      (run : Run schedule p' times more recoveries p'') :
      Run schedule p (now :: times) (attempts + more) (p.begun p' + recoveries) p''

/-- The schedule of a recovery that is running is steady, and was started before `t`. -/
def Steady (schedule : Schedule) (least t : ℕ) : Phase → Prop
  | .idle => True
  | .trying b | .waiting b _ => b.Steady schedule least ∧ b.started.nanos ≤ t

theorem Steady.mono {t t' : ℕ} (hp : p.Steady schedule least t) (ht : t ≤ t') :
    p.Steady schedule least t' := by
  cases p with
  | idle => trivial
  | trying | waiting => exact ⟨hp.1, hp.2.trans ht⟩

/-- **A move keeps the schedule steady.** -/
theorem Moves.steady (hmove : Moves schedule now p p' attempts)
    (hkeeps : schedule.growth.Keeps least) (hleast : least ≤ schedule.initial.millis) {t : ℕ}
    (hp : p.Steady schedule least t) (ht : now.nanos ≤ t) : p'.Steady schedule least t := by
  cases hmove with
  | stay => exact hp
  | leave => trivial
  | begin => exact ⟨Backoff.steady_start hleast now, ht⟩
  | pause hleft =>
    obtain ⟨hsteady, hstarted, -⟩ := hp.1.next hkeeps hleft
    exact ⟨hsteady, hstarted ▸ hp.2⟩
  | wake => exact hp

theorem Run.steady {times : List Duration} {recoveries : ℕ}
    (hrun : Run schedule p times attempts recoveries p') (hkeeps : schedule.growth.Keeps least)
    (hleast : least ≤ schedule.initial.millis) {t : ℕ} (hp : p.Steady schedule least t)
    (htimes : ∀ now ∈ times, now.nanos ≤ t) : p'.Steady schedule least t := by
  induction hrun with
  | nil => exact hp
  | cons hmove hrun ih =>
    obtain ⟨hnow, hrest⟩ := List.forall_mem_cons.mp htimes
    exact ih (hmove.steady hkeeps hleast hp hnow) hrest

end Phase

/-! ### Credit -/

/-- At a time `t` there is credit for so many attempts, if so many recoveries were running since
`start`. -/
def Affords (pace start recoveries t attempts : ℕ) : Prop :=
  start + attempts * pace ≤ t + 2 * recoveries * pace

namespace Affords

variable {pace start recoveries t t' attempts : ℕ}

theorem mono (h : Affords pace start recoveries t attempts) (ht : t ≤ t') :
    Affords pace start recoveries t' attempts := h.trans (Nat.add_le_add_right ht _)

/-- A pace of time gives credit for another attempt. -/
theorem earn (h : Affords pace start recoveries t attempts) (ht : t + pace ≤ t') :
    Affords pace start recoveries t' (attempts + 1) := by
  unfold Affords at h ⊢
  rw [Nat.add_mul, Nat.one_mul]
  omega

/-- A recovery that begins is given credit for two. -/
theorem recover (h : Affords pace start recoveries t attempts) :
    Affords pace start (recoveries + 1) t (attempts + 2) := by
  unfold Affords at h ⊢
  rw [Nat.mul_add, Nat.add_mul, Nat.add_mul]
  omega

theorem of_succ (h : Affords pace start recoveries t (attempts + 1)) :
    Affords pace start recoveries t attempts := by
  unfold Affords at h ⊢
  rw [Nat.add_mul] at h
  omega

theorem attempts_le {span : ℕ} (h : Affords pace start recoveries t (0 + attempts))
    (hpace : 0 < pace) (ht : t = start + span) : attempts ≤ span / pace + 2 * recoveries := by
  unfold Affords at h
  rw [Nat.zero_add] at h
  rw [← Nat.add_mul_div_right _ _ hpace, Nat.le_div_iff_mul_le hpace]
  omega

end Affords

namespace Phase

variable {schedule : Schedule} {now : Duration} {p p' : Phase} {attempts more : ℕ}
  {start recoveries t : ℕ}

/-- The credit at a time covers the attempts that were made. Where another is under way or to come,
it covers one more, unless that is the one at the ceiling. -/
def Solvent (schedule : Schedule) (pace start recoveries t attempts : ℕ) : Phase → Prop
  | .idle => Affords pace start recoveries t attempts
  | .trying b =>
    Affords pace start recoveries t attempts ∧
      (Affords pace start recoveries t (attempts + 1) ∨
        b.started.nanos + schedule.ceiling.nanos ≤ t)
  | .waiting b wake =>
    Affords pace start recoveries t attempts ∧
      (Affords pace start recoveries (max t wake.nanos) (attempts + 2) ∨
        Affords pace start recoveries (max t wake.nanos) (attempts + 1) ∧
          b.started.nanos + schedule.ceiling.nanos ≤ wake.nanos)

theorem Solvent.affords {pace : ℕ} (hp : p.Solvent schedule pace start recoveries t attempts) :
    Affords pace start recoveries t attempts := by
  cases p with
  | idle => exact hp
  | trying | waiting => exact hp.1

theorem Solvent.mono {pace t' : ℕ} (hp : p.Solvent schedule pace start recoveries t attempts)
    (ht : t ≤ t') : p.Solvent schedule pace start recoveries t' attempts := by
  cases p with
  | idle => exact Affords.mono hp ht
  | trying => exact ⟨hp.1.mono ht, hp.2.imp (·.mono ht) (·.trans ht)⟩
  | waiting b wake =>
    have hmax : max t wake.nanos ≤ max t' wake.nanos := max_le_max_right _ ht
    exact ⟨hp.1.mono ht, hp.2.imp (·.mono hmax) fun h => ⟨h.1.mono hmax, h.2⟩⟩

/-- **A move is paid for.** -/
theorem Moves.solvent (hmove : Moves schedule now p p' more)
    (hkeeps : schedule.growth.Keeps least) (hsteady : p.Steady schedule least now.nanos)
    (hp : p.Solvent schedule (least * 1000000) start recoveries now.nanos attempts) :
    p'.Solvent schedule (least * 1000000) start (recoveries + p.begun p') now.nanos
      (attempts + more) := by
  cases hmove with
  | @stay p => cases p <;> exact hp
  | @leave p => cases p <;> exact hp.affords
  | begin =>
    have hrecover := Affords.recover hp
    exact ⟨hrecover.of_succ, .inl hrecover⟩
  | @pause b b' delay hleft =>
    obtain ⟨hpaid, hcredit⟩ := hp
    obtain ⟨hb, hstarted⟩ := hsteady
    obtain ⟨-, hstarted', hceiling, hdelay⟩ := hb.next hkeeps hleft
    -- a delay was handed out, so that the ceiling was not reached
    replace hcredit := hcredit.resolve_right (by omega)
    refine ⟨hpaid, ?_⟩
    rcases hdelay with hlong | hcut
    · exact .inl (hcredit.earn (by rw [Duration.nanos_add]; omega))
    · refine .inr ⟨hcredit.mono (le_max_left ..), ?_⟩
      rw [hstarted', Duration.nanos_add, hcut]
      omega
  | @wake b wake hdue =>
    obtain ⟨-, hcredit⟩ := hp
    have hmax : max now.nanos wake.nanos = now.nanos := max_eq_left hdue
    rw [hmax] at hcredit
    rcases hcredit with hcredit | ⟨hcredit, hceiling⟩
    · exact ⟨hcredit.of_succ, .inl hcredit⟩
    · exact ⟨hcredit, .inr (hceiling.trans hdue)⟩

/-- A run is paid for. -/
theorem Run.affords {times : List Duration} {begun stop : ℕ}
    (hrun : Run schedule p times more begun p') (hkeeps : schedule.growth.Keeps least)
    (hleast : least ≤ schedule.initial.millis) (hsteady : p.Steady schedule least t)
    (hp : p.Solvent schedule (least * 1000000) start recoveries t attempts)
    (hclock : times.Pairwise (· ≤ ·)) (htimes : ∀ now ∈ times, t ≤ now.nanos ∧ now.nanos ≤ stop)
    (ht : t ≤ stop) :
    Affords (least * 1000000) start (recoveries + begun) stop (attempts + more) := by
  induction hrun generalizing t attempts recoveries with
  | nil => exact hp.affords.mono ht
  | @cons p p' p'' now times now' more begun hmove hrun ih =>
    obtain ⟨⟨hnow, hstop⟩, hrest⟩ := List.forall_mem_cons.mp htimes
    obtain ⟨hfirst, hclock⟩ := List.pairwise_cons.mp hclock
    have hsteady := hsteady.mono hnow
    rw [← Nat.add_assoc, ← Nat.add_assoc]
    exact ih (hmove.steady hkeeps hleast hsteady le_rfl)
      (hmove.solvent hkeeps hsteady (hp.mono hnow)) hclock
      (fun later hlater => ⟨hfirst later hlater, (hrest later hlater).2⟩) hstop

/-- **How many attempts fit into an interval**: one for each pace of it, and two for each recovery
that runs in it, whether it has begun before or not. -/
theorem attempts_le {before times : List Duration} {past begun begunBefore : ℕ}
    {p p' : Phase} {start span : Duration}
    (hbefore : Run schedule .idle before past begunBefore p)
    (hrun : Run schedule p times attempts begun p') (hkeeps : schedule.growth.Keeps least)
    (hpos : 0 < least) (hleast : least ≤ schedule.initial.millis)
    (hclock : (before ++ times).Pairwise (· ≤ ·))
    (htimes : ∀ now ∈ times, start ≤ now ∧ now ≤ start + span) :
    attempts ≤ span.nanos / (least * 1000000) + 2 * (p.isBusy.toNat + begun) := by
  cases hrun with
  | nil => exact Nat.zero_le _
  | @cons _ _ _ now times more rest begun hmove hrest =>
    obtain ⟨-, hclock, hcross⟩ := List.pairwise_append.mp hclock
    have hsteady : p.Steady schedule least now.nanos := by
      refine hbefore.steady hkeeps hleast (t := now.nanos) trivial fun earlier hearlier => ?_
      exact hcross earlier hearlier now (List.mem_cons_self ..)
    have hstart : start.nanos ≤ now.nanos := (htimes now (List.mem_cons_self ..)).1
    have hsolvent :
        p.Solvent schedule (least * 1000000) start.nanos p.isBusy.toNat now.nanos 0 := by
      have hempty : Affords (least * 1000000) start.nanos 0 now.nanos 0 := by simpa [Affords]
      have htwo : Affords (least * 1000000) start.nanos 1 now.nanos 2 := hempty.recover
      cases p with
      | idle => exact hempty
      | trying => exact ⟨htwo.of_succ.of_succ, .inl htwo.of_succ⟩
      | waiting => exact ⟨htwo.of_succ.of_succ, .inl (htwo.mono (le_max_left ..))⟩
    have hlater : ∀ later ∈ now :: times, now ≤ later :=
      List.forall_mem_cons.mpr ⟨Nat.le_refl _, (List.pairwise_cons.mp hclock).1⟩
    have haffords := (Run.cons hmove hrest).affords hkeeps hleast hsteady hsolvent hclock
      (fun later hmem => ⟨hlater later hmem, (htimes later hmem).2⟩)
      (htimes now (List.mem_cons_self ..)).2
    exact haffords.attempts_le (by positivity) (Duration.nanos_add ..)

end Phase

end FeedLink
