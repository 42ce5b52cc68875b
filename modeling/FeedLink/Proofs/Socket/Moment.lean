import FeedLink.Proofs.Socket.Effect
import Mathlib.Data.List.Induction
import Mathlib.Data.List.Permutation

/-!
# The moments of a run

A claim about a run is a claim about what happened before and what happens then. `Handler.moments`
lists the steps of a run, each with the handler it began with, so that such a claim can name them:
the first moment that settles a request, or the last one that changed how a feed is held.

## Main definitions

* `Moment`, `Handler.moments` — the steps of a run
* `Handler.after` — the handler that a run leads to
* `Since` — something has begun, and has not ended since

## Main results

* `Handler.moments_append`, `Handler.after_append` — a run goes on
* `since_concat` — what the last step does to something that has begun
* `Handler.Reachable.after`, `Handler.Reachable.of_mem_moments`
-/

namespace FeedLink.Socket

/-- A gateway connection with the standard timeouts, which reconnects. -/
def Settings.standard : Settings where
  kind := .gatewaySocket
  endpoint := ⟨"ws://127.0.0.1:28333/ws", []⟩
  decoders := .empty
  timeouts := .standard
  reconnect := true

/-- A caller subscribes to a feed on the first connection, and the server acknowledges it. -/
def firstSubscription : List (Duration × Event) :=
  [(.zero, .subscribe ⟨"a"⟩ .newTxs .null ⟨"f"⟩ none),
    (.zero, .received ⟨0⟩ "\x7b\"id\":\"1\",\"result\":\"x\"\x7d")]

/-- Its connection is lost, and will be dialed again. -/
def lostSubscription : List (Duration × Event) :=
  firstSubscription ++ [(.zero, .lost ⟨0⟩ .closed)]

/-- One step of a run: the handler before it, the time, and the event. -/
structure Moment where
  before : Handler
  now : Duration
  event : Event

namespace Moment

variable (s : Settings) (m : Moment)

def after : Handler := (m.before.step s m.now m.event).1

def outputs : List Output := (m.before.step s m.now m.event).2

/-- What the moment does to the tables. -/
def effect : Effect := m.before.effect s m.now m.event

end Moment

namespace Handler

variable {h : Handler} {s : Settings} {events more : List (Duration × Event)} {m : Moment}

/-- The handler that steps lead to. -/
def after (s : Settings) (h : Handler) (events : List (Duration × Event)) : Handler :=
  (run s h events).1

/-- The moments of a run. -/
def moments (s : Settings) : Handler → List (Duration × Event) → List Moment
  | _, [] => []
  | h, (now, event) :: rest => ⟨h, now, event⟩ :: moments s (h.step s now event).1 rest

@[simp] theorem after_nil (s : Settings) (h : Handler) : h.after s [] = h := rfl

@[simp] theorem moments_nil (s : Settings) (h : Handler) : moments s h [] = [] := rfl

theorem after_append (s : Settings) (h : Handler) (events more : List (Duration × Event)) :
    h.after s (events ++ more) = (h.after s events).after s more := by
  induction events generalizing h with
  | nil => rfl
  | cons e rest ih => exact ih _

theorem moments_append (s : Settings) (h : Handler) (events more : List (Duration × Event)) :
    moments s h (events ++ more) = moments s h events ++ moments s (h.after s events) more := by
  induction events generalizing h with
  | nil => rfl
  | cons e rest ih => exact congrArg _ (ih _)

/-- The last step of a run. -/
theorem after_concat (s : Settings) (h : Handler) (events : List (Duration × Event))
    (now : Duration) (event : Event) :
    h.after s (events ++ [(now, event)]) = (Moment.mk (h.after s events) now event).after s :=
  after_append s h events _

theorem moments_concat (s : Settings) (h : Handler) (events : List (Duration × Event))
    (now : Duration) (event : Event) :
    moments s h (events ++ [(now, event)]) =
      moments s h events ++ [⟨h.after s events, now, event⟩] :=
  moments_append s h events _

/-- What a run does is what its moments do, in turn. -/
theorem outputs_run (s : Settings) (h : Handler) (events : List (Duration × Event)) :
    (run s h events).2 = (moments s h events).flatMap (Moment.outputs s) := by
  induction events generalizing h with
  | nil => rfl
  | cons e rest ih => exact congrArg _ (ih _)

/-- A moment of a run is the last one of some shorter run. -/
theorem exists_of_mem_moments (hm : m ∈ moments s h events) :
    ∃ pre post, events = pre ++ (m.now, m.event) :: post ∧ m.before = h.after s pre := by
  induction events generalizing h with
  | nil => simp at hm
  | cons e rest ih =>
    rcases List.mem_cons.mp hm with rfl | hm
    · exact ⟨[], rest, rfl, rfl⟩
    · obtain ⟨pre, post, hevents, hbefore⟩ := ih hm
      exact ⟨e :: pre, post, congrArg _ hevents, hbefore⟩

/-- A run, cut at one of its moments. -/
theorem moments_split {pre post : List Moment} (hms : moments s h events = pre ++ m :: post) :
    ∃ events₁ events₂, events = events₁ ++ (m.now, m.event) :: events₂ ∧
      moments s h events₁ = pre ∧ h.after s events₁ = m.before := by
  induction events generalizing h pre with
  | nil => simp at hms
  | cons e rest ih =>
    cases pre with
    | nil =>
      obtain ⟨rfl, -⟩ := List.cons.inj hms
      exact ⟨[], rest, rfl, rfl, rfl⟩
    | cons m' pre =>
      obtain ⟨rfl, hrest⟩ := List.cons.inj hms
      obtain ⟨events₁, events₂, rfl, hpre, hbefore⟩ := ih hrest
      exact ⟨e :: events₁, events₂, rfl, congrArg _ hpre, hbefore⟩

/-- A run, cut at its last moment. -/
theorem moments_split_last {pre : List Moment} (hms : moments s h events = pre ++ [m]) :
    ∃ events₁, events = events₁ ++ [(m.now, m.event)] ∧
      moments s h events₁ = pre ∧ h.after s events₁ = m.before := by
  rcases List.eq_nil_or_concat' events with rfl | ⟨events₁, e, rfl⟩
  · simp at hms
  · rw [moments_concat] at hms
    obtain ⟨rfl, hlast⟩ := List.append_inj' hms rfl
    obtain rfl := List.singleton_inj.mp hlast
    exact ⟨events₁, rfl, rfl, rfl⟩

theorem Reachable.after (hr : Reachable s h) (events : List (Duration × Event)) :
    Reachable s (h.after s events) := by
  induction events generalizing h with
  | nil => exact hr
  | cons e rest ih => exact ih (hr.step e.1 e.2)

theorem Reachable.of_mem_moments (hr : Reachable s h) (hm : m ∈ moments s h events) :
    Reachable s m.before := by
  obtain ⟨pre, -, -, hbefore⟩ := exists_of_mem_moments hm
  exact hbefore ▸ hr.after pre

end Handler

/-! ### What has begun and not ended -/

/-- Some moment began it, and no moment after that one has ended it. -/
def Since (begins ends : Moment → Prop) (ms : List Moment) : Prop :=
  ∃ pre m post, ms = pre ++ m :: post ∧ begins m ∧ ∀ m' ∈ post, ¬ends m'

variable {begins ends : Moment → Prop} {ms : List Moment} {m : Moment}

theorem not_since_nil : ¬Since begins ends [] := by
  rintro ⟨pre, m, post, heq, -⟩
  simp at heq

theorem Since.imp {begins' ends' : Moment → Prop} (h : Since begins ends ms)
    (hbegins : ∀ m, begins m → begins' m) (hends : ∀ m, ends' m → ends m) :
    Since begins' ends' ms := by
  obtain ⟨pre, m, post, hms, hm, hpost⟩ := h
  exact ⟨pre, m, post, hms, hbegins m hm, fun m' hm' hend => hpost m' hm' (hends m' hend)⟩

theorem since_concat :
    Since begins ends (ms ++ [m]) ↔ begins m ∨ Since begins ends ms ∧ ¬ends m := by
  constructor
  · rintro ⟨pre, m', post, heq, hbegins, hends⟩
    rcases List.eq_nil_or_concat post with rfl | ⟨post, last, rfl⟩
    · obtain ⟨-, hm⟩ := List.append_inj' heq rfl
      obtain rfl : m = m' := by simpa using hm
      exact .inl hbegins
    · have heq' : ms ++ [m] = (pre ++ m' :: post) ++ [last] := by simpa using heq
      obtain ⟨rfl, hm⟩ := List.append_inj' heq' rfl
      obtain rfl : m = last := by simpa using hm
      refine .inr ⟨⟨pre, m', post, rfl, hbegins, fun x hx => hends x (by simp [hx])⟩, ?_⟩
      exact hends m (by simp)
  · rintro (hbegins | ⟨⟨pre, m', post, rfl, hbegins, hends⟩, hend⟩)
    · exact ⟨ms, m, [], rfl, hbegins, by simp⟩
    · refine ⟨pre, m', post ++ [m], by simp, hbegins, fun x hx => ?_⟩
      rcases List.mem_append.mp hx with hx | hx
      · exact hends x hx
      · exact List.mem_singleton.mp hx ▸ hend

/-- What has ended, and has not begun again, is over. -/
theorem not_since_of_ended {pre post : List Moment} (hends : ends m) (hm : ¬begins m)
    (hpost : ∀ m' ∈ post, ¬begins m') : ¬Since begins ends (pre ++ m :: post) := by
  induction post using List.reverseRecOn with
  | nil => exact fun hsince => (since_concat.mp hsince).elim hm fun hbefore => hbefore.2 hends
  | append_singleton post last ih =>
    rw [show pre ++ m :: (post ++ [last]) = (pre ++ m :: post) ++ [last] by simp, since_concat]
    rintro (hlast | ⟨hbefore, -⟩)
    · exact hpost last (by simp) hlast
    · exact ih (fun m' hm' => hpost m' (by simp [hm'])) hbefore

end FeedLink.Socket
