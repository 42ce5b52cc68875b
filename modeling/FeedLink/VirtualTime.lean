import FeedLink.Duration

/-!
# Virtual time

A world under virtual time has tasks, which go on by turns. A task that can go on waits for its turn
in a queue, in which it keeps its place at the front as long as it can go on; what it makes others
able to do comes behind those that wait already. While anything can go on, time stands still. When
time is let pass, it jumps from alarm to alarm, and tasks whose alarms go off together queue in the
order in which the alarms were set.
-/

namespace FeedLink

/-- What the tasks of a world do; a `τ` names a task. -/
structure VirtualTime (σ τ : Type) where
  now : σ → Duration
  setNow : Duration → σ → σ
  /-- The tasks, the oldest first. -/
  tasks : σ → List τ
  /-- When a task goes on of itself. -/
  alarms : σ → τ → List Duration
  canGoOn : σ → τ → Bool
  /-- Gives a task its turn. -/
  turn : τ → σ → σ
  /-- A bound on the turns that follow one another while time stands still. -/
  turns : σ → Nat

/-- A world with the tasks that wait for their turn and with the alarms that are set, both in
order. -/
structure Timed (σ τ : Type) where
  world : σ
  ready : List τ
  alarms : List (τ × Duration)

namespace VirtualTime

variable {σ τ : Type} [DecidableEq τ] (v : VirtualTime σ τ)

/-- Changes the world. Tasks that can no longer go on leave the queue, and others join it; alarms
that are no longer wanted are taken back, and others are set. -/
def update (change : σ → σ) (t : Timed σ τ) : Timed σ τ :=
  let world := change t.world
  let wanted := (v.tasks world).flatMap fun task => (v.alarms world task).map (task, ·)
  let alarms := t.alarms.filter (· ∈ wanted) ++ wanted.filter (· ∉ t.alarms)
  let able := (alarms.map Prod.fst ++ v.tasks world).eraseDups.filter (v.canGoOn world)
  ⟨world, t.ready.filter (· ∈ able) ++ able.filter (· ∉ t.ready), alarms⟩

/-- A world in which nothing waits yet. -/
def start (world : σ) : Timed σ τ := v.update id ⟨world, [], []⟩

/-- Gives turns until nothing can go on, so many at most. -/
def settleFor : Nat → Timed σ τ → Timed σ τ
  | 0, t => t
  | turns + 1, t =>
    match t.ready with
    | [] => t
    | task :: _ => settleFor turns (v.update (v.turn task) t)

/-- Gives turns until nothing can go on. -/
def settle (t : Timed σ τ) : Timed σ τ := v.settleFor (v.turns t.world) t

/-- The next time at which something goes on of itself. -/
def nextAlarm? (t : Timed σ τ) : Option Duration :=
  ((t.alarms.map Prod.snd).filter (v.now t.world < ·)).min?

/-- Lets time pass until `target`, from alarm to alarm, of which there are at most so many. -/
def passUntil (target : Duration) : Nat → Timed σ τ → Timed σ τ
  | 0, t => v.update (v.setNow target) t
  | alarms + 1, t =>
    match (v.nextAlarm? t).filter (· ≤ target) with
    | none => v.update (v.setNow target) t
    | some time => passUntil target alarms (v.settle (v.update (v.setNow time) t))

/-- Lets time pass. Alarms are whole milliseconds apart. -/
def advance (span : Duration) (t : Timed σ τ) : Timed σ τ :=
  v.passUntil (v.now t.world + span) span.millis t

end VirtualTime

end FeedLink
