import FeedLink.Proofs.Grpc.Receiver
import FeedLink.Proofs.Socket.Redialing

/-!
# How often connections and streams are dialed

A WebSocket handler that dials its connection again, and a gRPC handler whose receiver opens its
stream again, are both a `Recoverer`: each step moves a phase as a schedule allows, and what the
step begins are the attempts of the phase. So they make as many attempts in an interval as
`Phase.attempts_le` says, which counts the recoveries that run in it. Nothing limits how many these
are: each connection that is made, and lost at once, is followed by a recovery of its own, whose
first attempt does not wait.

## Main definitions

* `Recoverer`, `Recoverer.Follows` — something that makes attempts under a schedule
* `Recoverer.recoveries` — how many recoveries run in the course of some steps
* `Clocked` — steps that lie in an interval, behind others
* `Socket.redialer`, `Grpc.reopener`

## Main results

* `Recoverer.Follows.attempts_le` — how many attempts fit into an interval
* `Socket.redialer_follows`, `Grpc.reopener_follows`
* `attempts_within_pace_and_recoveries`
-/

namespace FeedLink

/-- Steps lie in an interval, and time goes on, in the steps before them too. -/
structure Clocked {Event : Type} (before during : List (Duration × Event)) (start span : Duration) :
    Prop where
  sorted : ((before ++ during).map Prod.fst).Pairwise (· ≤ ·)
  within : ∀ e ∈ during, start ≤ e.1 ∧ e.1 ≤ start + span

instance {Event : Type} (before during : List (Duration × Event)) (start span : Duration) :
    Decidable (Clocked before during start span) :=
  decidable_of_iff _ ⟨fun h => ⟨h.1, h.2⟩, fun h => And.intro h.sorted h.within⟩

/-- How long an attempt waits at least, unless it is the first of its recovery or the ceiling cuts
its delay short: intervals are counted in whole milliseconds, and do not grow past ten seconds. -/
def Timeouts.pace (t : Timeouts) : Duration := .ofMillis (min t.reconnectInitial.millis 10000)

/-- Something that recovers from losses: how it steps, what it is at, and which outputs are attempts
to recover. -/
structure Recoverer (State Event Output : Type) where
  step : Duration → State → Event → State × List Output
  phase : State → Phase
  isAttempt : Output → Bool

namespace Recoverer

variable {State Event Output : Type}

/-- Steps in turn, each with its time. -/
def run (r : Recoverer State Event Output) :
    State → List (Duration × Event) → State × List Output
  | h, [] => (h, [])
  | h, (now, event) :: rest =>
    let (h, outputs) := r.step now h event
    let (h, more) := r.run h rest
    (h, outputs ++ more)

/-- How many recoveries begin in the course of some steps. -/
def begun (r : Recoverer State Event Output) : State → List (Duration × Event) → ℕ
  | _, [] => 0
  | h, (now, event) :: rest =>
    let h' := (r.step now h event).1
    (r.phase h).begun (r.phase h') + r.begun h' rest

/-- How many recoveries run in the course of some steps: one that has begun before, and all that
begin. -/
def recoveries (r : Recoverer State Event Output) (h : State) (events : List (Duration × Event)) :
    ℕ :=
  (r.phase h).isBusy.toNat + r.begun h events

/-- A recoverer moves its phase as a schedule allows, as long as its states are good. -/
structure Follows (r : Recoverer State Event Output) (schedule : Schedule) (Good : State → Prop) :
    Prop where
  good : ∀ {h}, Good h → ∀ now event, Good (r.step now h event).1
  moves : ∀ {h}, Good h → ∀ now event,
    Phase.Moves schedule now (r.phase h) (r.phase (r.step now h event).1)
      ((r.step now h event).2.countP r.isAttempt)

namespace Follows

variable {r : Recoverer State Event Output} {schedule : Schedule} {Good : State → Prop} {h : State}
  {before during : List (Duration × Event)} {start span : Duration} {least : ℕ}

theorem good_run (hf : r.Follows schedule Good) (hh : Good h) (events : List (Duration × Event)) :
    Good (r.run h events).1 := by
  induction events generalizing h with
  | nil => exact hh
  | cons e rest ih => exact ih (hf.good hh e.1 e.2)

/-- Steps run the phase. -/
theorem phase_run (hf : r.Follows schedule Good) (hh : Good h) (events : List (Duration × Event)) :
    Phase.Run schedule (r.phase h) (events.map Prod.fst) ((r.run h events).2.countP r.isAttempt)
      (r.begun h events) (r.phase (r.run h events).1) := by
  induction events generalizing h with
  | nil => exact .nil
  | cons e rest ih =>
    obtain ⟨now, event⟩ := e
    have hrest := ih (hf.good hh now event)
    simp only [run, List.countP_append]
    exact .cons (hf.moves hh now event) hrest

/-- **How many attempts fit into an interval**, if intervals are kept to a pace. -/
theorem attempts_le (hf : r.Follows schedule Good) (hh : Good h) (hidle : r.phase h = .idle)
    (hkeeps : schedule.growth.Keeps least) (hpos : 0 < least)
    (hleast : least ≤ schedule.initial.millis) (hclock : Clocked before during start span) :
    (r.run (r.run h before).1 during).2.countP r.isAttempt ≤
      span.nanos / (Duration.ofMillis least).nanos +
        2 * r.recoveries (r.run h before).1 during := by
  have hbefore := hf.phase_run hh before
  rw [hidle] at hbefore
  have hwithin : ∀ now ∈ during.map Prod.fst, start ≤ now ∧ now ≤ start + span := by
    intro now hnow
    obtain ⟨e, he, rfl⟩ := List.mem_map.mp hnow
    exact hclock.within e he
  exact Phase.attempts_le hbefore (hf.phase_run (hf.good_run hh before) during) hkeeps hpos hleast
    (List.map_append ▸ hclock.sorted) hwithin

/-- How many attempts fit into an interval, under the standard growth. -/
theorem attempts_le_pace {t : Timeouts}
    (hf : r.Follows (BackoffConfig.bounded t.reconnectInitial t.reconnectCeiling).schedule Good)
    (hh : Good h) (hidle : r.phase h = .idle) (hmillis : .ofMillis 1 ≤ t.reconnectInitial)
    (hclock : Clocked before during start span) :
    (r.run (r.run h before).1 during).2.countP r.isAttempt ≤
      span.nanos / t.pace.nanos + 2 * r.recoveries (r.run h before).1 during := by
  have hinitial : 0 < t.reconnectInitial.millis := Nat.div_pos hmillis (by decide)
  have hpos : 0 < min t.reconnectInitial.millis 10000 := lt_min hinitial (by decide)
  exact hf.attempts_le hh hidle (BackoffConfig.keeps_bounded _ _ hpos (min_le_right ..)) hpos
    (min_le_left ..) hclock

end Follows

end Recoverer

/-! ### A connection -/

namespace Socket

/-- A handler that dials its connection again. -/
def redialer (s : Settings) : Recoverer Handler Event Output :=
  ⟨Handler.step s, Handler.phase, Output.isDialing⟩

theorem redialer_follows (s : Settings) :
    (redialer s).Follows s.redialSchedule (Handler.Reachable s) :=
  ⟨fun hh now event => hh.step now event, fun hh now event => hh.coherent.phase_moves s now event⟩

theorem run_redialer (s : Settings) (h : Handler) (events : List (Duration × Event)) :
    (redialer s).run h events = h.run s events := by
  induction events generalizing h with
  | nil => rfl
  | cons e rest ih => simp only [Recoverer.run, Handler.run, ih]; rfl

end Socket

/-! ### A stream -/

namespace Grpc

/-- What a receiver is at, as far as recovering is concerned. -/
def Stage.phase : Stage → Phase
  | .receiving _ | .ended => .idle
  | .reopening _ backoff => .trying backoff
  | .pausing _ backoff wake => .waiting backoff wake

/-- Does a stream begin to be opened? -/
def Act.isOpening : Act → Bool
  | .delivered _ => false
  | .opening => true

/-- Does the receiver with a token begin to open its stream again? -/
def Output.isReopening (token : Token) : Output → Bool
  | .opening opener _ _ => opener = .receiver token
  | .calling .. | .notified .. | .returned .. => false

/-- What the receiver with a token is at, if there is one. -/
def Handler.phase (token : Token) (h : Handler) : Phase :=
  (Table.get? token h.receivers).elim .idle (·.stage.phase)

/-- A handler whose receiver with a token opens its stream again. -/
def reopener (s : Settings) (token : Token) : Recoverer Handler Event Output :=
  ⟨Handler.step s, Handler.phase token, Output.isReopening token⟩

variable {s : Settings} {now : Duration} {token : Token}

theorem Receiver.Moves.phase_moves {r r' : Receiver} {signal : Signal} {acts : List Act}
    (hmoves : r.Moves s now signal r' acts) :
    Phase.Moves s.reopenSchedule now r.stage.phase r'.stage.phase (acts.countP Act.isOpening) := by
  cases hmoves with
  | idle => exact .stay
  | @receive stream payloads =>
    have hnone : (payloads.map fun p => Act.delivered (s.decoders.decode r.feed p)).countP
        Act.isOpening = 0 := by simp [List.countP_eq_zero, Act.isOpening]
    rw [hnone]
    exact .stay
  | finish | giveUp | reopen => exact .leave
  | lose hreceiving =>
    rw [hreceiving]
    exact .begin
  | pause hreopening hleft =>
    rw [hreopening]
    exact .pause hleft
  | wake hpausing hdue =>
    rw [hpausing]
    exact .wake hdue

theorem countP_actOutput (r : Receiver) (acts : List Act) :
    (acts.map (Handler.actOutput token r)).countP (Output.isReopening token) =
      acts.countP Act.isOpening := by
  rw [List.countP_map]
  refine List.countP_congr fun act _ => ?_
  cases act <;> simp [Handler.actOutput, Output.isReopening, Act.isOpening]

theorem countP_isReopening_eq_zero {outputs : List Output}
    (hother : ∀ feed params, .opening (.receiver token) feed params ∉ outputs) :
    outputs.countP (Output.isReopening token) = 0 := by
  refine List.countP_eq_zero.mpr fun o ho hreopening => ?_
  cases o with
  | opening opener feed params =>
    obtain rfl : opener = .receiver token := by simpa [Output.isReopening] using hreopening
    exact hother feed params ho
  | calling | notified | returned => contradiction

/-- A step moves the phase of the receiver with a token. -/
theorem Handler.phase_moves (s : Settings) (now : Duration) (h : Handler) (token : Token)
    (event : Event) :
    Phase.Moves s.reopenSchedule now (h.phase token) ((h.step s now event).1.phase token)
      ((h.step s now event).2.countP (Output.isReopening token)) := by
  have hadvances := advances_step s now h token event
  unfold Handler.phase
  generalize Table.get? token (h.step s now event).1.receivers = after at hadvances ⊢
  generalize (h.step s now event).2 = outputs at hadvances ⊢
  cases hadvances with
  | keep hother =>
    rw [countP_isReopening_eq_zero hother]
    exact .stay
  | begin hreceiving hother =>
    rw [countP_isReopening_eq_zero hother, Option.elim_some, hreceiving]
    exact .leave
  | signal hheld hmoves =>
    rw [countP_actOutput, hheld, Option.elim_some, Option.elim_some]
    exact hmoves.phase_moves

theorem reopener_follows (s : Settings) (token : Token) :
    (reopener s token).Follows s.reopenSchedule (Handler.Reachable s) :=
  ⟨fun hh now event => hh.step now event,
    fun _ now event => Handler.phase_moves s now _ token event⟩

theorem run_reopener (s : Settings) (token : Token) (h : Handler)
    (events : List (Duration × Event)) : (reopener s token).run h events = h.run s events := by
  induction events generalizing h with
  | nil => rfl
  | cons e rest ih => simp only [Recoverer.run, Handler.run, ih]; rfl

end Grpc

/-! ### Both -/

/-- **How often connections and streams are dialed.** In any interval, a handler makes no more
redials, and a receiver no more attempts to open its stream again, than one for each pace of the
interval and two for each recovery that runs in it. These two cannot be spared: the first attempt of
a recovery does not wait, and the delay of the last one is cut short at the ceiling. -/
theorem attempts_within_pace_and_recoveries :
    (∀ (s : Socket.Settings) (link : Socket.LinkId)
      (before during : List (Duration × Socket.Event)) (start span : Duration),
      .ofMillis 1 ≤ s.timeouts.reconnectInitial → Clocked before during start span →
        let h := ((Socket.Handler.initial link).run s before).1
        (h.run s during).2.countP Socket.Output.isDialing ≤
          span.nanos / s.timeouts.pace.nanos + 2 * (Socket.redialer s).recoveries h during) ∧
    ∀ (s : Grpc.Settings) (token : Grpc.Token) (before during : List (Duration × Grpc.Event))
      (start span : Duration),
      .ofMillis 1 ≤ s.timeouts.reconnectInitial → Clocked before during start span →
        let h := (Grpc.Handler.initial.run s before).1
        (h.run s during).2.countP (Grpc.Output.isReopening token) ≤
          span.nanos / s.timeouts.pace.nanos +
            2 * (Grpc.reopener s token).recoveries h during := by
  constructor
  · intro s link before during start span hmillis hclock
    have hbound := (Socket.redialer_follows s).attempts_le_pace (.initial link) rfl hmillis hclock
    rw [Socket.run_redialer, Socket.run_redialer] at hbound
    exact hbound
  · intro s token before during start span hmillis hclock
    have hbound := (Grpc.reopener_follows s token).attempts_le_pace .initial rfl hmillis hclock
    rw [Grpc.run_reopener, Grpc.run_reopener] at hbound
    exact hbound

/-- Three connections are lost as soon as they are made. -/
def Socket.droppedAtOnce : List (Duration × Socket.Event) :=
  [(.zero, .lost ⟨0⟩ .closed), (.zero, .dialed (.ok ⟨1⟩) []),
    (.zero, .lost ⟨1⟩ .closed), (.zero, .dialed (.ok ⟨2⟩) []), (.zero, .lost ⟨2⟩ .closed)]

/-- A connection is lost, and no dial succeeds. The reader wakes at these times. -/
def Socket.refused (wakes : List Duration) : List (Duration × Socket.Event) :=
  [(.zero, .lost ⟨0⟩ .closed), (.zero, .dialed (.error .closed) [])] ++
    wakes.flatMap fun wake => [(wake, .woken), (wake, .dialed (.error .closed) [])]

/-- It is dialed every ten seconds. -/
def Socket.refusedSlowly : List (Duration × Socket.Event) :=
  refused [.ofMillis 21000, .ofMillis 31500, .ofMillis 42000, .ofMillis 52500]

/-- The last of four dials does not wait for the ceiling of three milliseconds to be over. -/
def Socket.refusedQuickly : List (Duration × Socket.Event) :=
  refused [.ofMillis 1, .ofMillis 3, ⟨3000001⟩]

/-- The standard settings, but for how redialing backs off. -/
def Socket.Settings.redialing (initial ceiling : Duration) : Socket.Settings :=
  { standard with
    timeouts :=
      { Timeouts.standard with reconnectInitial := initial, reconnectCeiling := ceiling } }

/-- A stream is opened. -/
def Grpc.firstStream : List (Duration × Grpc.Event) :=
  [(.zero, .subscribe ⟨"a"⟩ .newTxs .null ⟨"f"⟩), (.zero, .opened ⟨"a"⟩ (.ok ⟨0⟩))]

/-- It fails, and so do the two that are opened in its place, as soon as they are. -/
def Grpc.failedAtOnce : List (Duration × Grpc.Event) :=
  [(.zero, .signal ⟨0⟩ (.failed ⟨0⟩ ⟨.unavailable, "restart"⟩)),
    (.zero, .signal ⟨0⟩ (.opened (.ok ⟨1⟩))),
    (.zero, .signal ⟨0⟩ (.failed ⟨1⟩ ⟨.unavailable, "restart"⟩)),
    (.zero, .signal ⟨0⟩ (.opened (.ok ⟨2⟩))),
    (.zero, .signal ⟨0⟩ (.failed ⟨2⟩ ⟨.unavailable, "restart"⟩))]

/-- Intervals of twenty seconds are kept to ten, so that a recovery makes five dials in 52.5 s; and
three streams fail in no time, each in a recovery of its own. -/
theorem refused_dials_and_failed_streams :
    (let s := Socket.Settings.redialing (.ofSeconds 20) (.ofSeconds 60)
      let h := Socket.Handler.initial ⟨0⟩
      (h.run s Socket.refusedSlowly).2.countP Socket.Output.isDialing = 5 ∧
        (Socket.redialer s).recoveries h Socket.refusedSlowly = 1 ∧
        5 ≤ (Duration.ofMillis 52500).nanos / s.timeouts.pace.nanos + 2 * 1) ∧
    let h := (Grpc.Handler.initial.run .standard Grpc.firstStream).1
    (h.run .standard Grpc.failedAtOnce).2.countP (Grpc.Output.isReopening ⟨0⟩) = 3 ∧
      (Grpc.reopener .standard ⟨0⟩).recoveries h Grpc.failedAtOnce = 3 ∧
      3 ≤ Duration.zero.nanos / Timeouts.standard.pace.nanos + 2 * 3 := by
  obtain ⟨hsocket, hgrpc⟩ := attempts_within_pace_and_recoveries
  have hdials := hsocket (.redialing (.ofSeconds 20) (.ofSeconds 60)) ⟨0⟩ [] Socket.refusedSlowly
    .zero (.ofMillis 52500) (by decide) (by decide)
  have hreopens := hgrpc .standard ⟨0⟩ Grpc.firstStream Grpc.failedAtOnce .zero .zero (by decide)
    (by decide)
  have hfive : ((Socket.Handler.initial ⟨0⟩).run (.redialing (.ofSeconds 20) (.ofSeconds 60))
      Socket.refusedSlowly).2.countP Socket.Output.isDialing = 5 := by decide +kernel
  have hone : (Socket.redialer (.redialing (.ofSeconds 20) (.ofSeconds 60))).recoveries
      (.initial ⟨0⟩) Socket.refusedSlowly = 1 := by decide +kernel
  have hthree : ((Grpc.Handler.initial.run .standard Grpc.firstStream).1.run .standard
      Grpc.failedAtOnce).2.countP (Grpc.Output.isReopening ⟨0⟩) = 3 := by decide +kernel
  have hrecoveries : (Grpc.reopener .standard ⟨0⟩).recoveries
      (Grpc.Handler.initial.run .standard Grpc.firstStream).1 Grpc.failedAtOnce = 3 := by
    decide +kernel
  simp only [Socket.Handler.run, hfive, hone] at hdials
  simp only [hthree, hrecoveries] at hreopens
  exact ⟨⟨hfive, hone, hdials⟩, hthree, hrecoveries, hreopens⟩

/-- **What allows for more attempts than one for each initial interval and two more**: connections
and streams that are lost as soon as they are made, for each loss is followed by an attempt at once;
an initial interval of more than ten seconds, for no interval is longer; and one that is not a whole
number of milliseconds, for only these are counted. -/
theorem more_attempts_than_initial_intervals :
    (Clocked [] Socket.droppedAtOnce .zero .zero ∧
      Duration.zero.nanos / Timeouts.standard.reconnectInitial.nanos + 2 <
        ((Socket.Handler.initial ⟨0⟩).run .standard Socket.droppedAtOnce).2.countP
          Socket.Output.isDialing) ∧
    (Clocked Grpc.firstStream Grpc.failedAtOnce .zero .zero ∧
      Duration.zero.nanos / Timeouts.standard.reconnectInitial.nanos + 2 <
        ((Grpc.Handler.initial.run .standard Grpc.firstStream).1.run .standard
          Grpc.failedAtOnce).2.countP (Grpc.Output.isReopening ⟨0⟩)) ∧
    (Clocked [] Socket.refusedSlowly .zero (.ofMillis 52500) ∧
      (Duration.ofMillis 52500).nanos / (Duration.ofSeconds 20).nanos + 2 <
        ((Socket.Handler.initial ⟨0⟩).run (.redialing (.ofSeconds 20) (.ofSeconds 60))
          Socket.refusedSlowly).2.countP Socket.Output.isDialing) ∧
    Clocked [] Socket.refusedQuickly .zero ⟨3000001⟩ ∧
      3000001 / 1900000 + 2 <
        ((Socket.Handler.initial ⟨0⟩).run (.redialing ⟨1900000⟩ ⟨3000001⟩)
          Socket.refusedQuickly).2.countP Socket.Output.isDialing := by
  refine ⟨⟨?_, ?_⟩, ⟨?_, ?_⟩, ⟨?_, ?_⟩, ?_, ?_⟩ <;> decide +kernel

end FeedLink
