import FeedLink.Proofs.Socket.Control
import FeedLink.Proofs.Socket.Moment

/-!
# The diagram of connection states

The state of a handler says what its connection and its reader are at: a connection is attached in
the states that say so, a reader that reads does it in one of these, and one that waits for a dial
does it while the handler reconnects. So the state moves along a diagram.

```text
connected, resubscribing → reconnecting → resubscribing → connected
connected, resubscribing, reconnecting → failed
any → closed
```

There is one way to leave it. A handler is closed while its reader waits for a dial, the dial fails,
the schedule is spent, and the reader learns this before it learns that it was told to stop: then a
closed handler becomes a failed one.

## Main definitions

* `ConnectionState.isOnline` — the state says that a connection is attached
* `Control.Orderly` — the state says what the connection and the reader are at
* `ConnectionState.Moves` — the diagram
* `Moment.Overrides` — the last dial of a closed handler fails

## Main results

* `Handler.Reachable.orderly` — every reachable handler is orderly
* `Handler.moves_iff` — a moment leaves the diagram only where it overrides a close
* `Handler.outcome_of_closed` — otherwise the reader of a closed handler stops without an error
-/

namespace FeedLink

namespace ConnectionState

/-- Does the state say that a connection is attached? -/
def isOnline (state : ConnectionState) : Bool := state = .connected || state = .resubscribing

/-- One arrow of the diagram, or none. -/
inductive Moves : ConnectionState → ConnectionState → Prop
  | stay {state : ConnectionState} : Moves state state
  | lose {state : ConnectionState} (online : state.isOnline = true) : Moves state .reconnecting
  | attach : Moves .reconnecting .resubscribing
  | settle : Moves .resubscribing .connected
  | fail {state : ConnectionState} (alive : state.isOnline = true ∨ state = .reconnecting) :
      Moves state .failed
  | close {state : ConnectionState} : Moves state .closed

/-- The diagram has no arrow from closed to failed. -/
theorem not_moves_closed_failed : ¬Moves .closed .failed := by
  rintro (_ | _)
  simp_all [isOnline]

end ConnectionState

namespace Socket

/-- The state says what the connection and the reader are at. -/
structure Control.Orderly (c : Control) : Prop where
  attached : c.released = false → c.link.isSome = c.state.isOnline
  reading : ∀ {l}, c.reader = .reading l → c.state.isOnline = true ∨ c.state = .closed
  redialing : c.reader.isRedialing = true → c.state = .reconnecting ∨ c.state = .closed

/-- The reader learns that the last dial has failed, although the handler is closed. -/
def Moment.Overrides (m : Moment) : Prop :=
  m.before.state = .closed ∧ ∃ backoff e failures, m.before.reader = .dialing backoff ∧
    m.event = .dialed (.error e) failures ∧ (backoff.next m.now).1 = none

namespace Handler

variable {h : Handler} {s : Settings} {now : Duration} {event : Event} {m : Moment}

theorem orderly_initial (link : LinkId) : (initial link).control.Orderly where
  attached := fun _ => rfl
  reading := fun _ => .inl rfl
  redialing := by simp [Handler.initial, Handler.control, Reader.isRedialing]

/-- A reader that is not told to stop reads while the handler is online. -/
theorem Coherent.online_of_reading (hc : h.Coherent) (ho : h.control.Orderly) {l : LinkId}
    (hreader : h.reader = .reading l) (hrunning : h.stopping = false) :
    h.state.isOnline = true := by
  refine (ho.reading hreader).resolve_right fun hclosed => ?_
  simp [hc.closed hclosed] at hrunning

/-- **A step keeps a handler orderly.** -/
theorem Coherent.orderly_step (hc : h.Coherent) (ho : h.control.Orderly) (s : Settings)
    (now : Duration) (event : Event) : (h.step s now event).1.control.Orderly := by
  have hsteers := hc.steers s now event
  generalize (h.step s now event).1.control = c at hsteers ⊢
  cases hsteers with
  | idle | settle => exact ⟨ho.attached, ho.reading, ho.redialing⟩
  | close => exact ⟨fun _ => rfl, fun _ => .inr rfl, fun _ => .inr rfl⟩
  | rest => exact ⟨ho.attached, by simp, by simp [Reader.isRedialing]⟩
  | read hreading =>
    exact ⟨ho.attached, fun _ => ho.reading hreading, by simp [Reader.isRedialing]⟩
  | lose => exact ⟨fun _ => rfl, by simp, fun _ => .inl rfl⟩
  | fail => exact ⟨fun _ => rfl, by simp, by simp [Reader.isRedialing]⟩
  | attach => exact ⟨fun _ => rfl, fun _ => .inl rfl, by simp [Reader.isRedialing]⟩
  | pause hdialing | wake hdialing =>
    have hredial : h.reader.isRedialing = true := by rw [hdialing]; rfl
    exact ⟨ho.attached, by simp, fun _ => ho.redialing hredial⟩
  | exhaust hdialing =>
    have hlink := (hc.redialing (Reader.isRedialing_of_dialing hdialing)).1
    exact ⟨fun _ => by simp [hlink, Handler.control, ConnectionState.isOnline],
      by simp, by simp [Reader.isRedialing]⟩
  | release => exact ⟨by simp, ho.reading, ho.redialing⟩
  | @complete b =>
    -- only a handler that is online is connected again
    dsimp only
    split
    · next hst =>
      have hstate : h.state = .resubscribing := hst.1
      refine ⟨fun hr => ?_, fun _ => .inl rfl, fun hr => ?_⟩
      · exact (ho.attached hr).trans (by rw [show h.control.state = _ from hstate]; rfl)
      · have := ho.redialing hr
        simp [Handler.control, hstate] at this
    · exact ⟨ho.attached, ho.reading, ho.redialing⟩

/-- **Every reachable handler is orderly.** -/
theorem Reachable.orderly (hr : Reachable s h) : h.control.Orderly := by
  induction hr with
  | initial link => exact orderly_initial link
  | step now event hr ih => exact hr.coherent.orderly_step ih s now event

/-! ### The diagram -/

/-- The last dial of a closed handler makes it a failed one. -/
theorem state_of_overrides (s : Settings) (hm : m.Overrides) : (m.after s).state = .failed := by
  obtain ⟨-, backoff, e, failures, hreader, hevent, hspent⟩ := hm
  obtain ⟨next, hnext⟩ : ∃ next, backoff.next m.now = (none, next) := ⟨_, Prod.ext hspent rfl⟩
  simp only [Moment.after, hevent, step, hreader, dialed, hnext]
  rfl

/-- **A moment leaves the diagram only where it overrides a close.** -/
theorem moves_iff (hr : Reachable s m.before) :
    m.before.state.Moves (m.after s).state ↔ ¬m.Overrides := by
  constructor
  · intro hmoves hm
    rw [hm.1, state_of_overrides s hm] at hmoves
    exact ConnectionState.not_moves_closed_failed hmoves
  · intro hm
    have hc := hr.coherent
    have ho := hr.orderly
    have hsteers := hc.steers s m.now m.event
    change m.before.control.state.Moves (m.after s).control.state
    rw [Moment.after]
    generalize hevent : m.event = event at hsteers
    generalize (m.before.step s m.now event).1.control = c at hsteers ⊢
    cases hsteers with
    | idle | rest | read | pause | wake | settle | release => exact .stay
    | close => exact .close
    | lose hreading hrunning => exact .lose (hc.online_of_reading ho hreading hrunning)
    | fail hreading hrunning => exact .fail (.inl (hc.online_of_reading ho hreading hrunning))
    | attach hdialing hopen =>
      have hredial : m.before.control.reader.isRedialing = true :=
        Reader.isRedialing_of_dialing hdialing
      have hstate := (ho.redialing hredial).resolve_right hopen
      rw [hstate]
      exact .attach
    | @exhaust e failures backoff next hdialing hspent =>
      have hredial : m.before.control.reader.isRedialing = true :=
        Reader.isRedialing_of_dialing hdialing
      rcases ho.redialing hredial with hstate | hstate
      · exact .fail (.inr hstate)
      · exact absurd ⟨hstate, backoff, e, failures, hdialing, hevent, congrArg Prod.fst hspent⟩ hm
    | complete =>
      dsimp only
      split
      · next hst =>
        rw [show m.before.control.state = _ from hst.1]
        exact .settle
      · exact .stay

/-- A handler that is closed while its reader waits for the last dial, which fails. -/
example :
    let closed := (initial ⟨0⟩).after .standard
      [(.zero, .lost ⟨0⟩ .closed), (.zero, .close ⟨"c"⟩ none)]
    let late := Timeouts.standard.reconnectCeiling
    closed.state = .closed ∧
      (closed.step .standard late (.dialed (.error .closed) [])).1.state = .failed := by
  decide +kernel

/-- The reader of a closed handler stops without an error, unless it overrides the close. -/
theorem outcome_of_closed (hr : Reachable s m.before) (hclosed : m.before.state = .closed)
    (hrunning : ∀ outcome, m.before.reader ≠ .ended outcome)
    {outcome : Except HandlerError Unit} (hended : (m.after s).reader = .ended outcome) :
    outcome = .ok () ∨ m.Overrides := by
  have hc := hr.coherent
  have hstopping := hc.closed hclosed
  have hsteers := hc.steers s m.now m.event
  change (m.after s).control.reader = .ended outcome at hended
  rw [Moment.after] at hended
  generalize hevent : m.event = event at hsteers hended
  generalize (m.before.step s m.now event).1.control = c at hsteers hended
  cases hsteers with
  | idle | close | settle | complete | release => exact absurd hended (hrunning outcome)
  | rest => exact .inl (Reader.ended.inj hended).symm
  | lose _ hopen | fail _ hopen => simp [hstopping] at hopen
  | read | attach | pause | wake => contradiction
  | @exhaust e failures backoff next hdialing hspent =>
    exact .inr ⟨hclosed, backoff, e, failures, hdialing, hevent, congrArg Prod.fst hspent⟩

end Handler

end Socket

end FeedLink
