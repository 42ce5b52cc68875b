import FeedLink.Proofs.Request
import FeedLink.Proofs.Socket.Control
import FeedLink.Proofs.Socket.Delivery
import FeedLink.Proofs.Socket.Evolution

/-!
# Close is final

The first step of a close empties the tables, detaches the connection and tells the reader to stop,
wherever the reader is: it may read, wait for a dial, or pause before the next one. From there on
the handler is `Shut`, and whatever happens next keeps it so. Its state does not tell: the reader of
a closed handler may still learn that its last dial has failed before it learns that it was told to
stop, and makes the state a failed one. What carries the proof is that the state is closed or the
reader has stopped: only a reader attaches a connection, and only if the state is not closed.

A shut handler writes nothing and notifies nobody. A connection that it has dialed is closed, or
dropped with the dial. The farewell, which tells a connection that no subscription is wanted any
more, was written before the handler was shut or never: it is the only request without parameters,
and what a recovery makes again has some.

## Main definitions

* `Handler.Shut` — nothing is attached and nothing is held, and the reader has to stop
* `Output.IsFarewell` — a connection is told that no subscription is wanted any more

## Main results

* `Handler.Shut.step` — a shut handler stays shut
* `Handler.Reachable.shut_of_closed` — a closed handler is shut
* `Handler.Reachable.close_of_farewell` — only a close writes a farewell
* `Handler.farewells_run` — a run writes at most one farewell
* `Handler.close_is_final`
-/

namespace FeedLink.Socket

open Json

/-- The call with which a caller begins to subscribe, or a request. -/
def Event.asks? : Event → Option CallId
  | .subscribe call .. | .request call .. => some call
  | _ => none

/-- A connection is told that no subscription is wanted any more. -/
def Output.IsFarewell : Output → Prop
  | .sent _ text _ => ∃ n, text = (Request.unsubscribeAll n).text
  | .closed _ | .dialing | .notified .. | .returned .. => False

namespace Handler

/-- Nothing is attached and nothing is held, and the reader was told to stop. If the state does not
say that the handler is closed, the reader has stopped already. -/
structure Shut (h : Handler) : Prop where
  detached : h.link = none
  vacant : h.registry = .empty
  silent : h.correlator.pending = []
  stopping : h.stopping = true
  ended : h.state = .closed ∨ ∃ outcome, h.reader = .ended outcome

variable {h : Handler} {s : Settings} {now : Duration} {event : Event} {call : CallId}
  {m : Moment} {f : Feed} {o : Output}

/-! ### Becoming shut -/

/-- A close shuts a handler. -/
theorem Coherent.shut_close (hc : h.Coherent) (hadm : h.admits call = true)
    (hopen : h.state ≠ .closed) (s : Settings) (now : Duration)
    (failure : Option TransportError) : (h.step s now (.close call failure)).1.Shut := by
  have heff : h.effect s now (.close call failure) = .close := by simp [effect, hadm, hopen]
  have hcontrol : (h.step s now (.close call failure)).1.control =
      { h.control with link := none, state := .closed, stopping := true } := by
    simp only [Handler.step, hadm, if_true]
    exact control_close hopen failure
  exact {
    detached := congrArg Control.link hcontrol
    vacant := by rw [registry_step s now hc, heff]; rfl
    silent := by rw [correlator_step s now hc, heff]; rfl
    stopping := congrArg Control.stopping hcontrol
    ended := .inl (congrArg Control.state hcontrol) }

/-! ### Staying shut -/

/-- The state of a shut handler that would still dial says that it is closed. -/
theorem Shut.closed_of_redialing (hs : h.Shut) (hredial : h.reader.isRedialing = true) :
    h.state = .closed := by
  refine hs.ended.resolve_right ?_
  rintro ⟨outcome, hended⟩
  simp [hended, Reader.isRedialing] at hredial

/-- The tables of a shut handler stay empty. -/
theorem Shut.tables_step (hs : h.Shut) (hc : h.Coherent) (s : Settings) (now : Duration)
    (event : Event) :
    (h.step s now event).1.registry = .empty ∧
      (h.step s now event).1.correlator.pending = [] := by
  have hcause := causes_effect s now h event
  have hevicted : ∀ key settlement,
      (h.correlator.settle key settlement).2.pending = [] := fun key settlement => by
    simp [Correlator.settle, hs.silent]
  have hreleased : ∀ key, (h.registry.release key).2 = .empty := fun key => by
    rw [hs.vacant]
    rfl
  rw [correlator_step s now hc event, registry_step s now hc event]
  generalize h.effect s now event = effect at hcause ⊢
  cases hcause with
  | nothing => exact ⟨hs.vacant, hs.silent⟩
  | refuse _ _ hattached | register _ hattached | reserve _ hattached | unregister _ hattached =>
    simp [hs.detached] at hattached
  | withdraw => exact ⟨hreleased _, hevicted _ _⟩
  | reply =>
    refine ⟨?_, hevicted _ _⟩
    rw [perform, registry_handleReply_of_none (by rw [hs.vacant]; rfl)]
    exact hs.vacant
  | lose _ hrunning => simp [hs.stopping] at hrunning
  | close => exact ⟨rfl, rfl⟩
  | attach hdialing hopen =>
    exact absurd (hs.closed_of_redialing (Reader.isRedialing_of_dialing hdialing)) hopen
  | settle =>
    exact settleReplays_invariant (P := fun h => h.registry = .empty ∧ h.correlator.pending = [])
      (fun p hk => ⟨by rw [withdraw, hk.1]; rfl,
        by simp [withdraw, Correlator.evict, Correlator.settle, hk.2]⟩)
      ⟨hs.vacant, hs.silent⟩

/-- **A shut handler stays shut.** -/
theorem Shut.step (hs : h.Shut) (hc : h.Coherent) (s : Settings) (now : Duration)
    (event : Event) : (h.step s now event).1.Shut := by
  obtain ⟨hvacant, hsilent⟩ := hs.tables_step hc s now event
  have hcontrol : (h.step s now event).1.control.link = none ∧
      (h.step s now event).1.control.stopping = true ∧
      ((h.step s now event).1.control.state = .closed ∨
        ∃ outcome, (h.step s now event).1.control.reader = .ended outcome) := by
    have hsteers := hc.steers s now event
    generalize (h.step s now event).1.control = c at hsteers ⊢
    cases hsteers with
    | idle | settle => exact ⟨hs.detached, hs.stopping, hs.ended⟩
    | close => exact ⟨rfl, rfl, .inl rfl⟩
    | rest => exact ⟨hs.detached, hs.stopping, .inr ⟨_, rfl⟩⟩
    | read _ hattached => simp [hs.detached] at hattached
    | lose _ hrunning | fail _ hrunning => simp [hs.stopping] at hrunning
    | attach hdialing hopen =>
      -- a reader that dials finds the state closed, and looks at it before it attaches anything
      exact absurd (hs.closed_of_redialing (Reader.isRedialing_of_dialing hdialing)) hopen
    | pause hreader | wake hreader =>
      have hclosed := hs.closed_of_redialing (by rw [hreader]; rfl)
      exact ⟨hs.detached, hs.stopping, .inl hclosed⟩
    | exhaust =>
      -- the state is not closed any longer, but there is no reader either
      exact ⟨hs.detached, hs.stopping, .inr ⟨_, rfl⟩⟩
    | complete =>
      refine ⟨hs.detached, hs.stopping, hs.ended.imp (fun hstate => ?_) id⟩
      simp [hstate]
    | release => exact ⟨rfl, rfl, hs.ended⟩
  exact ⟨hcontrol.1, hvacant, hsilent, hcontrol.2.1, hcontrol.2.2⟩

/-- **A closed handler is shut.** -/
theorem Reachable.shut_of_closed (hr : Reachable s h) (hclosed : h.state = .closed) : h.Shut := by
  induction hr with
  | initial link => contradiction
  | @step h now event hr ih =>
    have hc := hr.coherent
    by_cases hbefore : h.state = .closed
    · exact (ih hbefore).step hc s now event
    · have hsteers := hc.steers s now event
      change (h.step s now event).1.control.state = .closed at hclosed
      generalize (h.step s now event).1.control = c at hsteers hclosed
      cases hsteers with
      | close hadm hopen => exact hc.shut_close hadm hopen s now _
      | idle | rest | read | pause | wake | settle | release => exact absurd hclosed hbefore
      | lose | fail | attach | exhaust => contradiction
      | complete =>
        dsimp only at hclosed
        split at hclosed
        · contradiction
        · exact absurd hclosed hbefore

/-- A handler is shut behind a close, whoever was the first to close it. -/
theorem Reachable.shut_close (hr : Reachable s h) (hadm : h.admits call = true) (now : Duration)
    (failure : Option TransportError) : (h.step s now (.close call failure)).1.Shut := by
  by_cases hclosed : h.state = .closed
  · exact (hr.shut_of_closed hclosed).step hr.coherent s now _
  · exact hr.coherent.shut_close hadm hclosed s now failure

theorem Shut.after (hs : h.Shut) (hr : Reachable s h) (events : List (Duration × Event)) :
    (h.after s events).Shut := by
  induction events generalizing h with
  | nil => exact hs
  | cons e rest ih => exact ih (hs.step hr.coherent s e.1 e.2) (hr.step e.1 e.2)

theorem Shut.of_mem_moments (hs : h.Shut) (hr : Reachable s h) {events : List (Duration × Event)}
    (hm : m ∈ moments s h events) : m.before.Shut := by
  obtain ⟨pre, -, -, hbefore⟩ := exists_of_mem_moments hm
  exact hbefore ▸ hs.after hr pre

/-! ### What a shut handler does -/

/-- A shut handler writes nothing. -/
theorem Shut.not_sent (hs : h.Shut) (s : Settings) (now : Duration) (event : Event)
    {link : LinkId} {text : String} {failure : Option TransportError} :
    .sent link text failure ∉ (h.step s now event).2 := by
  intro hsent
  obtain ⟨request, hwrites, -⟩ := explains_step s now h event _ hsent
  cases hwrites with
  | subscribe hattached | request hattached | unsubscribe _ hattached | close _ _ hattached =>
    simp [hs.detached] at hattached
  | replay hdialing hopen =>
    exact absurd (hs.closed_of_redialing (Reader.isRedialing_of_dialing hdialing)) hopen

/-- A shut handler notifies nobody. -/
theorem Shut.notifications (hs : m.before.Shut) (s : Settings) : m.notifications s = [] := by
  by_cases hpush : ∃ x payload, m.Pushes x payload
  · obtain ⟨x, payload, hpush⟩ := hpush
    have hroute : m.before.registry.route x = none := by
      rw [hs.vacant]
      rfl
    rw [Moment.notifications, outputs_of_push s hpush, hroute]
    rfl
  · exact notifications_of_no_push s fun x payload hx => hpush ⟨x, payload, hx⟩

/-- A connection that a shut handler has dialed is closed, or dropped together with the dial. -/
theorem Shut.outputs_dialed (hs : h.Shut) (s : Settings) (now : Duration) (link : LinkId)
    (failures : List (Option TransportError)) :
    (h.step s now (.dialed (.ok link) failures)).2 = [.closed link] ∨
      (h.step s now (.dialed (.ok link) failures)).2 = [] ∧
        ∀ backoff, h.reader ≠ .dialing backoff := by
  cases hreader : h.reader with
  | reading | pausing | ended => exact .inr ⟨by simp only [Handler.step, hreader], by simp⟩
  | dialing backoff =>
    have hclosed := hs.closed_of_redialing (Reader.isRedialing_of_dialing hreader)
    exact .inl (by simp only [Handler.step, hreader, dialed, hclosed, if_true])

/-- Who subscribes on a shut handler, or makes a request, is told that nothing is connected. -/
theorem Shut.outputs_asks (hs : h.Shut) (hadm : h.admits call = true)
    (hasks : event.asks? = some call) (s : Settings) (now : Duration) :
    (h.step s now event).2 = [.returned call (.error .notConnected)] := by
  cases event with
  | subscribe call' =>
    obtain rfl : call' = call := Option.some.inj hasks
    simp only [Handler.step, hadm, if_true, subscribe_of_detached hs.detached]
  | request call' =>
    obtain rfl : call' = call := Option.some.inj hasks
    simp only [Handler.step, hadm, if_true, request_of_detached hs.detached]
  | _ => contradiction

/-! ### Who writes a farewell -/

/-- What is subscribed to again is what was subscribed to before. -/
theorem request_of_replayable {lost : Subscription}
    (hlost : h.registry.replayable? f = some lost) :
    ∃ slot, Table.get? f h.registry.slots = some slot ∧ slot.request = lost.request := by
  rcases slot_of_replayable hlost with hactive | hreserved
  · exact ⟨_, hactive, rfl⟩
  · exact ⟨_, hreserved, rfl⟩

/-- **The request for which a feed is held has parameters.** -/
theorem Reachable.params_isSome (hr : Reachable s h) {slot : Slot}
    (hslot : Table.get? f h.registry.slots = some slot) : slot.request.params.isSome = true := by
  induction hr generalizing slot with
  | initial link => simp [Handler.initial, Registry.empty] at hslot
  | @step h now event hr ih =>
    have hrepeats := repeats_after (m := ⟨h, now, event⟩) hr.coherent hslot
    rcases hrepeats with ⟨params, -, hrequest⟩ | ⟨⟨old, hold, -, hsame⟩, -⟩
    · rw [hrequest]
      rfl
    · have hparams := ih hold
      rcases hsame with hsame | ⟨n, hsame⟩ <;> rw [hsame]
      · exact hparams
      · exact hparams

/-- **Only a close writes a farewell**, to the connection that is attached. -/
theorem Reachable.close_of_farewell (hr : Reachable s h) (ho : o ∈ (h.step s now event).2)
    (hfarewell : o.IsFarewell) :
    (∃ call failure, event = .close call failure ∧ h.admits call = true) ∧
      h.state ≠ .closed ∧ ∃ link, h.link = some link := by
  cases o with
  | closed | dialing | notified | returned => exact hfarewell.elim
  | sent link text failure =>
    obtain ⟨n, htext⟩ := hfarewell
    obtain ⟨request, hwrites, hrequest⟩ := explains_step s now h event _ ho
    rw [htext] at hrequest
    have hparams : ¬request.params.isSome = true := fun hparams =>
      Request.text_ne_unsubscribeAll hparams n hrequest
    cases hwrites with
    | subscribe | request | unsubscribe => exact absurd rfl hparams
    | close hadm hopen hlink => exact ⟨⟨_, _, rfl, hadm⟩, hopen, link, hlink⟩
    | replay hdialing hopen hlost =>
      have hlost' := (Registry.mem_replayables hr.coherent.tables.registry).mp hlost
      obtain ⟨slot, hslot, heq⟩ := request_of_replayable hlost'
      have hslot' := hr.params_isSome hslot
      rw [heq] at hslot'
      exact absurd hslot' hparams

/-- A step writes at most one farewell. -/
theorem Reachable.farewells_step (hr : Reachable s h) (now : Duration) (event : Event) :
    (h.step s now event).2.Pairwise fun o o' => ¬(o.IsFarewell ∧ o'.IsFarewell) := by
  by_cases hsome : ∃ o ∈ (h.step s now event).2, o.IsFarewell
  · obtain ⟨o, ho, hfarewell⟩ := hsome
    obtain ⟨⟨call, failure, rfl, hadm⟩, hopen, link, hlink⟩ := hr.close_of_farewell ho hfarewell
    simp only [Handler.step, hadm, if_true, close, if_neg hopen, hlink]
    split <;> simp [Output.IsFarewell]
  · exact List.pairwise_of_forall_mem_list fun o ho _ _ hboth => hsome ⟨o, ho, hboth.1⟩

/-- **A run writes at most one farewell.** -/
theorem farewells_run (hr : Reachable s h) (events : List (Duration × Event)) :
    (run s h events).2.Pairwise fun o o' => ¬(o.IsFarewell ∧ o'.IsFarewell) := by
  induction events generalizing h with
  | nil => exact .nil
  | cons e rest ih =>
    obtain ⟨now, event⟩ := e
    refine List.pairwise_append.mpr ⟨hr.farewells_step now event, ih (hr.step now event), ?_⟩
    rintro o ho o' ho' ⟨hfarewell, hfarewell'⟩
    -- the first one was written by a close, and a shut handler writes nothing
    obtain ⟨⟨call, failure, rfl, hadm⟩, -⟩ := hr.close_of_farewell ho hfarewell
    have hshut := hr.shut_close hadm now failure
    rw [outputs_run] at ho'
    obtain ⟨m, hm, ho'⟩ := List.mem_flatMap.mp ho'
    cases o' with
    | sent => exact (hshut.of_mem_moments (hr.step now _) hm).not_sent s m.now m.event ho'
    | closed | dialing | notified | returned => exact hfarewell'

/-! ### Close -/

/-- **Close is final.** Once a caller has begun to close a handler, and whatever happens next, no
connection is attached and the tables stay empty. No step writes anything or notifies anybody; a
connection that was still dialed is closed, or was dropped when the reader stopped; and whoever
subscribes, or makes a request, is told that nothing is connected. From its first step to its last
the handler has told at most one connection, and once, that no subscription is wanted any more. -/
theorem close_is_final (s : Settings) (first : LinkId) (before : List (Duration × Event))
    (hadm : ((initial first).after s before).admits call = true) (now : Duration)
    (failure : Option TransportError) (later : List (Duration × Event)) :
    let shut := (initial first).after s (before ++ [(now, .close call failure)])
    ((shut.after s later).link = none ∧ (shut.after s later).registry = .empty ∧
      (shut.after s later).correlator.pending = []) ∧
    (∀ m ∈ moments s shut later,
      (∀ link text failure, .sent link text failure ∉ m.outputs s) ∧
      m.notifications s = [] ∧
      (∀ link failures, m.event = .dialed (.ok link) failures →
        m.outputs s = [.closed link] ∨
          m.outputs s = [] ∧ ∀ backoff, m.before.reader ≠ .dialing backoff) ∧
      ∀ asking, m.event.asks? = some asking → m.before.admits asking = true →
        m.outputs s = [.returned asking (.error .notConnected)]) ∧
    (run s (initial first) (before ++ (now, .close call failure) :: later)).2.Pairwise
      fun o o' => ¬(o.IsFarewell ∧ o'.IsFarewell) := by
  intro shut
  have hreach : Reachable s shut := (Reachable.initial first).after _
  have hshut : shut.Shut := by
    rw [show shut = _ from after_concat ..]
    exact ((Reachable.initial first).after before).shut_close hadm now failure
  have hend := hshut.after hreach later
  refine ⟨⟨hend.detached, hend.vacant, hend.silent⟩, fun m hm => ?_,
    farewells_run (.initial first) _⟩
  have hm := hshut.of_mem_moments hreach hm
  refine ⟨fun link text failure => hm.not_sent s m.now m.event, hm.notifications s,
    fun link failures hevent => ?_, fun asking hasks hadm => hm.outputs_asks hadm hasks s m.now⟩
  rw [Moment.outputs, hevent]
  exact hm.outputs_dialed s m.now link failures

/-- A handler that is closed while its reader waits for a dial. -/
def closedWhileDialing : Handler :=
  (initial ⟨0⟩).after .standard (lostSubscription ++ [(.zero, .close ⟨"c"⟩ none)])

/-- The dial succeeds all the same, and its connection is closed. -/
theorem dialed_in_vain :
    let dialed : Moment := ⟨closedWhileDialing, .zero, .dialed (.ok ⟨1⟩) []⟩
    dialed.outputs .standard = [.closed ⟨1⟩] ∧ (dialed.after .standard).link = none := by
  intro dialed
  have hadm : ((initial ⟨0⟩).after .standard lostSubscription).admits ⟨"c"⟩ = true := by
    decide +kernel
  have hsome : (dialed.outputs .standard).isEmpty = false := by decide +kernel
  obtain ⟨⟨hlink, -⟩, hmoments, -⟩ := close_is_final .standard ⟨0⟩ lostSubscription hadm .zero none
    [(.zero, .dialed (.ok ⟨1⟩) [])]
  obtain ⟨-, -, hdialed, -⟩ := hmoments dialed (List.mem_singleton_self _)
  refine ⟨(hdialed ⟨1⟩ [] rfl).resolve_right ?_, hlink⟩
  rintro ⟨hnone, -⟩
  simp [hnone] at hsome

end Handler

end FeedLink.Socket
