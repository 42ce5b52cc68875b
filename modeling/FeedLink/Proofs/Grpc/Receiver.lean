import FeedLink.Grpc.Handler
import FeedLink.Proofs.Table

/-!
# What a signal makes of a receiver

A receiver receives, opens a stream again, pauses before the next attempt, or has ended. `Moves`
lists what takes it from one stage to another, with the acts that go along; nothing but the stage
ever changes. A handler passes each signal on to the receiver it is for, so that a step of a handler
is a move of one receiver, the start of a new one, or nothing to the receivers at all.

## Main definitions

* `Receiver.Moves` — what a signal makes of a receiver
* `Handler.Advances` — what a step of a handler makes of the receiver with a token

## Main results

* `Receiver.moves_step` — a step of a receiver is a move
* `Receiver.Moves.told` — a receiver that ends tells its callback why, or had no reason to
* `Handler.advances_step` — a step of a handler moves the receiver that it is for
-/

namespace FeedLink.Grpc

open Json

/-- A gateway with the standard timeouts, whose streams are opened again. -/
def Settings.standard : Settings := ⟨.empty, .standard, true⟩

/-- The status that a signal brings of a stream that failed, or could not be opened. -/
def Signal.status? : Signal → Option Status
  | .failed _ status | .opened (.error status) => some status
  | .frame .. | .finished _ | .opened (.ok _) | .woken | .cancelled => none

/-- A signal that ends a receiver without a word: the stream ended, or was wanted no more. -/
def Signal.IsQuiet : Signal → Prop
  | .finished _ | .cancelled => True
  | .failed _ status => status.isCleanEnd = true
  | .frame .. | .opened _ | .woken => False

namespace Receiver

/-- A signal makes something of a receiver, and acts are done on the way. -/
inductive Moves (s : Settings) (now : Duration) (r : Receiver) :
    Signal → Receiver → List Act → Prop
  | idle {signal : Signal} : Moves s now r signal r []
  | receive {stream : StreamId} {payloads : List Value} (receiving : r.stage = .receiving stream) :
      Moves s now r (.frame stream payloads) r
        (payloads.map fun p => .delivered (s.decoders.decode r.feed p))
  | finish {signal : Signal} (quiet : signal.IsQuiet) : Moves s now r signal r.stop []
  /-- The callback is told why. -/
  | giveUp {signal : Signal} {status : Status} (told : signal.status? = some status) :
      Moves s now r signal r.stop [.delivered (.error status.toError)]
  | lose {stream : StreamId} {status : Status} (receiving : r.stage = .receiving stream) :
      Moves s now r (.failed stream status)
        { r with stage := .reopening stream (.start s.reopenSchedule now) } [.opening]
  | reopen {lost stream : StreamId} {backoff : Backoff}
      (reopening : r.stage = .reopening lost backoff) :
      Moves s now r (.opened (.ok stream)) { r with stage := .receiving stream } []
  | pause {lost : StreamId} {status : Status} {backoff next : Backoff} {delay : Duration}
      (reopening : r.stage = .reopening lost backoff)
      (left : backoff.next now = (some delay, next)) :
      Moves s now r (.opened (.error status)) { r with stage := .pausing lost next (now + delay) }
        []
  | wake {lost : StreamId} {backoff : Backoff} {wake : Duration}
      (pausing : r.stage = .pausing lost backoff wake) (due : wake ≤ now) :
      Moves s now r .woken { r with stage := .reopening lost backoff } [.opening]

variable {s : Settings} {now : Duration} {r r' : Receiver} {signal : Signal} {acts : List Act}

theorem moves_lose {stream : StreamId} {status : Status}
    (hreceiving : r.stage = .receiving stream) :
    Moves s now r (.failed stream status) (r.lose s now stream status).1
      (r.lose s now stream status).2 := by
  unfold Receiver.lose
  split
  · next hclean => exact .finish hclean
  · split
    · exact .giveUp rfl
    · exact .lose hreceiving

theorem moves_retry {lost : StreamId} {backoff : Backoff} {status : Status}
    (hreopening : r.stage = .reopening lost backoff) :
    Moves s now r (.opened (.error status)) (r.retry now lost backoff status).1
      (r.retry now lost backoff status).2 := by
  unfold Receiver.retry
  split
  · exact .giveUp rfl
  · split
    · exact .giveUp rfl
    · next hnext => exact .pause hreopening hnext

/-- **A step of a receiver is a move.** -/
theorem moves_step (s : Settings) (now : Duration) (r : Receiver) (signal : Signal) :
    Moves s now r signal (r.step s now signal).1 (r.step s now signal).2 := by
  cases signal with
  | frame stream payloads =>
    simp only [step]
    split
    · next held hstage =>
      split
      · next heq => exact .receive (heq ▸ hstage)
      · exact .idle
    · exact .idle
  | finished stream =>
    simp only [step]
    split
    · split
      · exact .finish trivial
      · exact .idle
    · exact .idle
  | failed stream status =>
    simp only [step]
    split
    · next held hstage =>
      split
      · next heq => exact moves_lose (heq ▸ hstage)
      · exact .idle
    · exact .idle
  | opened result =>
    simp only [step]
    split
    · next lost backoff hstage =>
      cases result with
      | ok stream => exact .reopen hstage
      | error status => exact moves_retry hstage
    · exact .idle
  | woken =>
    simp only [step]
    split
    · next lost backoff wake hstage =>
      split
      · next hdue => exact .wake hstage hdue
      · exact .idle
    · exact .idle
  | cancelled => exact .finish trivial

/-- Nothing but the stage of a receiver ever changes. -/
theorem Moves.same (hmoves : Moves s now r signal r' acts) :
    r'.feed = r.feed ∧ r'.params = r.params ∧ r'.callback = r.callback := by
  cases hmoves <;> exact ⟨rfl, rfl, rfl⟩

/-- What has ended does not begin again. -/
theorem Moves.stays_ended (hmoves : Moves s now r signal r' acts) (hended : r.hasEnded = true) :
    r'.hasEnded = true := by
  cases hmoves with
  | idle | receive => exact hended
  | finish | giveUp => rfl
  | lose hstage | reopen hstage | pause hstage | wake hstage => simp [hasEnded, hstage] at hended

/-- **A receiver that ends tells its callback why, or had no reason to**: the stream ended, or was
wanted no more. -/
theorem Moves.told (hmoves : Moves s now r signal r' acts) (hrunning : r.hasEnded = false)
    (hended : r'.hasEnded = true) :
    signal.IsQuiet ∨ ∃ status, signal.status? = some status ∧
      acts = [.delivered (.error status.toError)] := by
  cases hmoves with
  | idle | receive => simp [hrunning] at hended
  | finish hquiet => exact .inl hquiet
  | giveUp htold => exact .inr ⟨_, htold, rfl⟩
  | lose | reopen | pause | wake => contradiction

end Receiver

namespace Handler

variable {s : Settings} {now : Duration} {h : Handler} {event : Event} {token : Token}

/-- What an act of a receiver is to the world outside. -/
def actOutput (token : Token) (r : Receiver) : Act → Output
  | .delivered d => .notified r.callback d
  | .opening => .opening (.receiver token) r.feed r.params

/-- What a step of a handler makes of the receiver with a token, and what it does to the world
outside. -/
inductive Advances (s : Settings) (now : Duration) (h : Handler) (token : Token) :
    Event → Option Receiver → List Output → Prop
  /-- The step is about something else. -/
  | keep {event : Event} {outputs : List Output}
      (other : ∀ feed params, .opening (.receiver token) feed params ∉ outputs) :
      Advances s now h token event (Table.get? token h.receivers) outputs
  /-- A subscribe has got its stream. -/
  | begin {call : CallId} {stream : StreamId} {r : Receiver} {outputs : List Output}
      (receiving : r.stage = .receiving stream)
      (other : ∀ feed params, .opening (.receiver token) feed params ∉ outputs) :
      Advances s now h token (.opened call (.ok stream)) (some r) outputs
  | signal {signal : Signal} {r r' : Receiver} {acts : List Act}
      (held : Table.get? token h.receivers = some r) (moves : r.Moves s now signal r' acts) :
      Advances s now h token (.signal token signal) (some r') (acts.map (actOutput token r))

/-- A signal is passed on to the receiver that it is for, unless that one is not cancelled and the
signal says so. -/
theorem notify_cases (s : Settings) (now : Duration) {r : Receiver}
    (hr : Table.get? token h.receivers = some r) (signal : Signal) :
    h.notify s now token signal = (h, []) ∨
      h.notify s now token signal =
        ({ h with receivers := Table.set token (r.step s now signal).1 h.receivers },
          (r.step s now signal).2.map (actOutput token r)) := by
  obtain ⟨hfeed, hparams, hcallback⟩ := (Receiver.moves_step s now r signal).same
  unfold notify
  rw [hr]
  dsimp only
  split
  · exact .inl rfl
  · refine .inr (Prod.ext rfl (List.map_congr_left fun act _ => ?_))
    cases act with
    | delivered d => simp only [actOutput, hcallback]
    | opening => simp only [actOutput, hfeed, hparams]

/-- What a receiver does is not done by another. -/
theorem not_opening_of_ne {other : Token} (hne : other ≠ token) (r : Receiver) (acts : List Act)
    (feed : Feed) (params : Value) :
    .opening (.receiver token) feed params ∉ acts.map (actOutput other r) := by
  intro hmem
  obtain ⟨act, -, hact⟩ := List.mem_map.mp hmem
  cases act with
  | delivered d => contradiction
  | opening => exact hne (Opener.receiver.inj (Output.opening.inj hact).1)

theorem advances_notify (s : Settings) (now : Duration) (h : Handler) (token other : Token)
    (signal : Signal) :
    Advances s now h token (.signal other signal)
      (Table.get? token (h.notify s now other signal).1.receivers)
      (h.notify s now other signal).2 := by
  cases hr : Table.get? other h.receivers with
  | none =>
    simp only [notify, hr]
    exact .keep (by simp)
  | some r =>
    rcases notify_cases s now hr signal with heq | heq
    · rw [heq]
      exact .keep (by simp)
    · rw [heq, Table.get?_set]
      split
      · next htoken =>
        obtain rfl := htoken
        exact .signal hr (Receiver.moves_step s now r signal)
      · next hne => exact .keep fun feed params => not_opening_of_ne hne r _ feed params

theorem receivers_freeOpening (h : Handler) (feed : Feed) (opening : Token) :
    (h.freeOpening feed opening).receivers = h.receivers := by
  unfold freeOpening
  split
  · rfl
  · split <;> rfl

/-- A call that ends leaves the receivers alone, and opens nothing. -/
theorem advances_finish {h' : Handler} (hreceivers : h'.receivers = h.receivers) (call : CallId)
    (result : CallResult) :
    Advances s now h token event (Table.get? token (h'.finish call result).1.receivers)
      (h'.finish call result).2 := by
  rw [show (h'.finish call result).1.receivers = h'.receivers from rfl, hreceivers]
  exact .keep (by simp [finish])

theorem advances_opened (s : Settings) (now : Duration) (h : Handler) (token : Token)
    (call : CallId) (result : Except Status StreamId) :
    Advances s now h token (.opened call result)
      (Table.get? token (h.opened call result).1.receivers) (h.opened call result).2 := by
  unfold opened
  split
  · next feed params callback opening deadline _ =>
    cases result with
    | error status => exact advances_finish (receivers_freeOpening h feed opening) ..
    | ok stream =>
      dsimp only
      split
      · exact advances_finish rfl ..
      · simp only [finish, Table.get?_set]
        split
        · exact .begin rfl (by simp)
        · exact .keep (by simp)
  · exact .keep (by simp)

theorem advances_resume (s : Settings) (now : Duration) (h : Handler) (token : Token)
    (call : CallId) :
    Advances s now h token (.resume call)
      (Table.get? token (h.resume s now call).1.receivers) (h.resume s now call).2 := by
  unfold resume
  split
  · exact .keep (by simp)
  · next feed _ _ opening _ _ =>
    split
    · exact advances_finish rfl ..
    · split
      · exact advances_finish (receivers_freeOpening h feed opening) ..
      · exact .keep (by simp)
  · split
    · exact advances_finish rfl ..
    · split
      · exact advances_finish rfl ..
      · exact .keep (by simp)
  · split
    · exact advances_finish rfl ..
    · exact .keep (by simp)
  · split
    · exact advances_finish rfl ..
    · exact .keep (by simp)

theorem receivers_abandon (h : Handler) (call : CallId) :
    (h.abandon call).receivers = h.receivers := by
  unfold abandon
  dsimp only
  split
  · exact receivers_freeOpening ..
  · rfl

/-- **A step of a handler moves the receiver that it is for**, begins one, or does neither. -/
theorem advances_step (s : Settings) (now : Duration) (h : Handler) (token : Token)
    (event : Event) :
    Advances s now h token event (Table.get? token (h.step s now event).1.receivers)
      (h.step s now event).2 := by
  cases event with
  | signal other signal => exact advances_notify s now h token other signal
  | opened call result => exact advances_opened s now h token call result
  | subscribe call feed params callback =>
    simp only [step]
    unfold subscribe
    split
    · exact .keep (by simp)
    · split
      · exact .keep (by simp)
      · exact .keep (by simp)
  | request call method params =>
    simp only [step]
    unfold request
    split
    · exact .keep (by simp)
    · exact .keep (by simp)
  | unsubscribe call feed =>
    simp only [step]
    unfold unsubscribe
    dsimp only
    split
    · exact .keep (by simp)
    · exact .keep (by simp)
    · split
      · exact .keep (by simp)
      · exact .keep (by simp)
  | close call =>
    simp only [step]
    unfold close
    dsimp only
    split
    · exact .keep (by simp)
    · split
      · exact .keep (by simp)
      · exact .keep (by simp)
  | abandon call =>
    simp only [step, receivers_abandon]
    exact .keep (by simp)
  | answered call result =>
    simp only [step]
    unfold answered
    split
    · exact advances_finish rfl ..
    · exact .keep (by simp)
  | resume call => exact advances_resume s now h token call
  | release => exact .keep (by simp [step])

end Handler

end FeedLink.Grpc
