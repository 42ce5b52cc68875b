import FeedLink.Proofs.Pacing
import FeedLink.Proofs.Socket.Closing
import FeedLink.Proofs.Socket.Diagram
import FeedLink.Proofs.Socket.Subscribing
import FeedLink.Proofs.Socket.Unsubscribing

/-!
# Unsubscribing from a handler that is dead

Nothing comes back to a failed or closed handler, so there is nothing to wait for. An attempt to
unsubscribe looks at the feed before it looks at the state, though, and takes a reserved feed for
one whose acknowledgement is on its way. Two kinds of reservations can be left behind when a
connection is lost for good. A reservation by a subscribe is withdrawn by its call, which the loss
has woken: `Handler.Sponsored` says that there is none without such a call. A reservation by a
replay is kept for the next recovery, and after the last loss there is none. An unsubscribe of its
feed is tried again and again, until its schedule is spent.

## Main definitions

* `Handler.Sponsored` — every first reservation belongs to a call
* `Handler.AwaitsReplay` — a replay of the feed has no acknowledgement

## Main results

* `Handler.Reachable.sponsored` — every reachable handler is sponsored
* `Handler.outputs_unsubscribe_dead` — what the first attempt comes to
* `Handler.unsubscribe_returns_at_once_iff` — when it is the only one
-/

namespace FeedLink.Socket

open Json

namespace Handler

/-- A call subscribes, and waits for the reply to its request. -/
def Subscribing (h : Handler) (call : CallId) (pending : PendingReply) : Prop :=
  ∃ feed deadline, Table.get? call h.calls = some (.subscribing feed pending deadline)

/-- Every reservation that is not a replay belongs to a call that subscribes. -/
def Sponsored (h : Handler) : Prop :=
  ∀ {f request callback}, Table.get? f h.registry.slots = some (.reserved request callback none) →
    ∃ call pending, h.Subscribing call pending ∧ pending.key = request.id.key

/-- The feed is reserved for a replay that has no acknowledgement. -/
def AwaitsReplay (h : Handler) (f : Feed) : Prop :=
  ∃ request callback id, Table.get? f h.registry.slots = some (.reserved request callback (some id))

variable {h : Handler} {s : Settings} {now : Duration} {event : Event} {call : CallId} {f : Feed}

/-! ### Reservations and calls -/

theorem sponsored_initial (link : LinkId) : (initial link).Sponsored := by
  intro f request callback hslot
  contradiction

/-- A subscribe that reserves a feed waits behind its call, under the key of the reservation. -/
theorem subscribing_of_reserve (hr : Reachable s h) {params : Value} {callback : Callback}
    (heff : h.effect s now event = .reserve f params callback) :
    ∃ call pending, (h.step s now event).1.Subscribing call pending ∧ pending.key = h.nextKey := by
  have hcause := causes_effect s now h event
  rw [heff] at hcause
  cases hcause with
  | @reserve call _ _ _ link hadm hlink hfree =>
    obtain ⟨-, hcall, -⟩ := subscribe_begins hr hadm hlink hfree now params callback
    exact ⟨call, _, ⟨f, _, hcall⟩, rfl⟩

/-- **A step keeps a handler sponsored.** A reservation is made together with its call, and the call
leaves only with the reservation. -/
theorem Sponsored.step (hs : h.Sponsored) (hr : Reachable s h) (now : Duration) (event : Event) :
    (h.step s now event).1.Sponsored := by
  intro f request callback hslot
  have hc := hr.coherent
  have hbecomes := hc.becomes s now event f
  rw [hslot] at hbecomes
  generalize hbefore : Table.get? f h.registry.slots = before at hbecomes
  generalize heff : h.effect s now event = effect at hbecomes
  cases hbecomes with
  | reserved => exact subscribing_of_reserve hr heff
  | kept huntouched =>
    obtain ⟨call, pending, ⟨feed, deadline, hcall⟩, hkey⟩ := hs hbefore
    rcases get?_calls_step s now event hc hcall rfl with ⟨hkeep, -⟩ | ⟨-, hwithdraw⟩
    · exact ⟨call, pending, ⟨feed, deadline, hkeep⟩, hkey⟩
    · -- the call withdraws, and the reservation would be gone with it
      rw [heff] at hwithdraw
      subst hwithdraw
      have htoken : Table.get? request.id.key h.registry.byToken = some f :=
        hc.tables.registry.token_of_slot hbefore
      rw [← hkey] at htoken
      exact absurd htoken huntouched

/-- **Every reachable handler is sponsored.** -/
theorem Reachable.sponsored (hr : Reachable s h) : h.Sponsored := by
  induction hr with
  | initial link => exact sponsored_initial link
  | step now event hr ih => exact ih.step hr now event

/-- A feed that nobody subscribes to is free, active, or kept for a replay. -/
theorem Reachable.slot_of_idle (hr : Reachable s h)
    (hidle : ∀ call pending, ¬h.Subscribing call pending) {slot : Slot}
    (hslot : Table.get? f h.registry.slots = some slot) :
    (∃ sub, slot = .active sub) ∨ h.AwaitsReplay f := by
  cases slot with
  | active sub => exact .inl ⟨sub, rfl⟩
  | reserved request callback previous =>
    cases previous with
    | some id => exact .inr ⟨request, callback, id, hslot⟩
    | none =>
      obtain ⟨call, pending, hcall, -⟩ := hr.sponsored hslot
      exact absurd hcall (hidle call pending)

theorem not_awaitsReplay_of_none (hslot : Table.get? f h.registry.slots = none) :
    ¬h.AwaitsReplay f := by
  rintro ⟨request, callback, id, hreserved⟩
  rw [hslot] at hreserved
  contradiction

theorem not_awaitsReplay_of_active {sub : Subscription}
    (hslot : Table.get? f h.registry.slots = some (.active sub)) : ¬h.AwaitsReplay f := by
  rintro ⟨request, callback, id, hreserved⟩
  rw [hslot] at hreserved
  exact Slot.noConfusion (Option.some.inj hreserved)

theorem not_subscribing_of_nil (hcalls : h.calls = []) (call : CallId) (pending : PendingReply) :
    ¬h.Subscribing call pending := by
  rintro ⟨feed, deadline, hcall⟩
  rw [hcalls] at hcall
  contradiction

/-! ### The first attempt -/

theorem detached_of_terminal (hr : Reachable s h) (hdead : h.state.isTerminal = true)
    (hreleased : h.released = false) : h.link = none := by
  have hattached : h.link.isSome = h.state.isOnline := hr.orderly.attached hreleased
  rw [← Option.not_isSome_iff_eq_none, hattached]
  cases hstate : h.state <;> rw [hstate] at hdead <;> first | contradiction | decide

theorem step_unsubscribe (hadm : h.admits call = true) (failure : Option TransportError) :
    h.step s now (.unsubscribe call f failure) =
      h.unsubscribeAttempt now call f (.start s.unsubscribeSchedule now) failure := by
  simp only [step, hadm, if_true]
  rfl

/-- The first delay of an unsubscribe, unless its schedule is spent before it begins. -/
theorem next_start_unsubscribe (s : Settings) (now : Duration) :
    ((Backoff.start s.unsubscribeSchedule now).next now).1.isSome =
      decide (.zero < s.timeouts.unsubscribeCeiling) := by
  have helapsed : (Backoff.start s.unsubscribeSchedule now).elapsed now = .zero :=
    congrArg Duration.mk (Nat.sub_self _)
  rw [Bool.eq_iff_iff, decide_eq_true_iff, Option.isSome_iff_ne_none, Ne, Backoff.next_eq_none_iff,
    helapsed]
  exact Nat.not_le

/-- **What the first attempt comes to on a dead handler that nobody subscribes on.** Nothing is
sent. The call has succeeded if the feed is free, and has failed for good if it is active. If it is
kept for a replay, the call goes to sleep, unless its schedule has no time at all. -/
theorem outputs_unsubscribe_dead (hr : Reachable s h) (hdead : h.state.isTerminal = true)
    (hidle : ∀ call pending, ¬h.Subscribing call pending) (hadm : h.admits call = true)
    (now : Duration) (f : Feed) (failure : Option TransportError) :
    let begun : Moment := ⟨h, now, .unsubscribe call f failure⟩
    (Table.get? f h.registry.slots = none ∧ begun.outputs s = [.returned call (.ok none)]) ∨
    (∃ sub, Table.get? f h.registry.slots = some (.active sub) ∧
      begun.outputs s = [.returned call (.error .notConnected)]) ∨
    (h.AwaitsReplay f ∧ s.timeouts.unsubscribeCeiling = .zero ∧
      begun.outputs s = [.returned call (.error (.notSubscribed f))]) ∨
    (h.AwaitsReplay f ∧ .zero < s.timeouts.unsubscribeCeiling ∧ begun.outputs s = [] ∧
      ∃ backoff delay,
        Table.get? call (begun.after s).calls = some (.unsubscribing f backoff (now + delay))) := by
  intro begun
  have hlink := detached_of_terminal hr hdead (admits_iff.mp hadm).1
  have hstep : h.step s now (.unsubscribe call f failure) = _ := step_unsubscribe hadm failure
  cases hslot : Table.get? f h.registry.slots with
  | none =>
    refine .inl ⟨rfl, ?_⟩
    simp only [begun, Moment.outputs, hstep, unsubscribeAttempt, unsubscribeOnce, Registry.holding,
      hslot]
    rfl
  | some slot =>
    refine .inr ?_
    rcases hr.slot_of_idle hidle hslot with ⟨sub, rfl⟩ | hreplaying
    · refine .inl ⟨sub, rfl, ?_⟩
      simp only [begun, Moment.outputs, hstep, unsubscribeAttempt, unsubscribeOnce,
        Registry.holding, hslot, hlink, hdead, if_true]
      rfl
    · refine .inr ?_
      obtain ⟨request, callback, id, hreserved⟩ := id hreplaying
      have hnext := next_start_unsubscribe s now
      simp only [begun, Moment.outputs, Moment.after, hstep, unsubscribeAttempt, unsubscribeOnce,
        Registry.holding, hreserved]
      cases hdelay : (Backoff.start s.unsubscribeSchedule now).next now with
      | mk delay backoff =>
        rw [hdelay] at hnext
        cases delay with
        | none =>
          have hspent := of_decide_eq_false hnext.symm
          refine .inl ⟨hreplaying, ?_, rfl⟩
          exact congrArg Duration.mk (Nat.eq_zero_of_not_pos hspent)
        | some delay =>
          refine .inr ⟨hreplaying, of_decide_eq_true hnext.symm, rfl, backoff, delay, ?_⟩
          exact Table.get?_set_self ..

/-- **When an unsubscribe from a dead handler returns at its first attempt.** It does unless a
replay of the feed had no acknowledgement when the last connection was lost; with such a replay it
sleeps before it tries again, as long as its schedule has any time. A closed handler holds no feed.
-/
theorem unsubscribe_returns_at_once_iff (hr : Reachable s h) (hdead : h.state.isTerminal = true)
    (hidle : ∀ call pending, ¬h.Subscribing call pending) (hadm : h.admits call = true)
    (now : Duration) (f : Feed) (failure : Option TransportError) :
    let begun : Moment := ⟨h, now, .unsubscribe call f failure⟩
    ((∃ result, begun.outputs s = [.returned call result]) ↔
      ¬h.AwaitsReplay f ∨ s.timeouts.unsubscribeCeiling = .zero) ∧
    (¬h.AwaitsReplay f → begun.outputs s = [.returned call
      (match Table.get? f h.registry.slots with
        | none => .ok none
        | some _ => .error .notConnected)]) ∧
    (h.state = .closed → begun.outputs s = [.returned call (.ok none)]) := by
  intro begun
  have hclosed : h.state = .closed → Table.get? f h.registry.slots = none := by
    intro hstate
    rw [(hr.shut_of_closed hstate).vacant]
    rfl
  rcases outputs_unsubscribe_dead hr hdead hidle hadm now f failure with
    ⟨hslot, hout⟩ | ⟨sub, hslot, hout⟩ | ⟨hreplay, hzero, hout⟩ | ⟨hreplay, hpos, hout, -⟩
  · have hnot := not_awaitsReplay_of_none hslot
    rw [hslot]
    exact ⟨⟨fun _ => .inl hnot, fun _ => ⟨_, hout⟩⟩, fun _ => hout, fun _ => hout⟩
  · have hnot := not_awaitsReplay_of_active hslot
    rw [hslot] at hclosed ⊢
    exact ⟨⟨fun _ => .inl hnot, fun _ => ⟨_, hout⟩⟩, fun _ => hout,
      fun hstate => absurd (hclosed hstate) (Option.some_ne_none _)⟩
  · refine ⟨⟨fun _ => .inr hzero, fun _ => ⟨_, hout⟩⟩, fun hnot => absurd hreplay hnot, ?_⟩
    intro hstate
    exact absurd hreplay (not_awaitsReplay_of_none (hclosed hstate))
  · have hnever : ¬∃ result, begun.outputs s = [.returned call result] := by
      rintro ⟨result, hreturned⟩
      rw [hout] at hreturned
      contradiction
    have hnot : ¬(¬h.AwaitsReplay f ∨ s.timeouts.unsubscribeCeiling = .zero) := by
      rintro (hnone | hzero)
      · exact hnone hreplay
      · rw [hzero] at hpos
        exact Nat.lt_irrefl _ hpos
    refine ⟨iff_of_false hnever hnot, fun hnone => absurd hreplay hnone, ?_⟩
    intro hstate
    exact absurd hreplay (not_awaitsReplay_of_none (hclosed hstate))

/-- A handler whose only connection breaks for good after a caller has subscribed on it. -/
def brokenWhileActive : Handler :=
  (initial ⟨0⟩).after .standard (firstSubscription ++
    [(.zero, .resume ⟨"a"⟩ none), (.zero, .lost ⟨0⟩ (.webSocket "protocol error"))])

/-- The feed is given up as not connected, at once. -/
theorem active_feed_fails_fast :
    brokenWhileActive.state = .failed ∧
      (Moment.mk brokenWhileActive .zero (.unsubscribe ⟨"u"⟩ .newTxs none)).outputs .standard =
        [.returned ⟨"u"⟩ (.error .notConnected)] := by
  have hcalls : brokenWhileActive.calls = [] := by cbv
  have hactive : Table.get? .newTxs brokenWhileActive.registry.slots =
      some (.active ⟨.newTxs, .subscribe 1 .newTxs .null, ⟨"f"⟩, ⟨"x"⟩⟩) := by cbv
  have hr : Reachable .standard brokenWhileActive := (Reachable.initial ⟨0⟩).after _
  have hadm : brokenWhileActive.admits ⟨"u"⟩ = true := by decide +kernel
  have hreturns := (unsubscribe_returns_at_once_iff hr (by decide +kernel)
    (not_subscribing_of_nil hcalls) hadm .zero .newTxs none).2.1
    (not_awaitsReplay_of_active hactive)
  rw [hactive] at hreturns
  exact ⟨by decide +kernel, hreturns⟩

/-- A handler whose first connection is lost after a caller has subscribed on it, and whose second
connection breaks for good before it has acknowledged the replay. -/
def brokenWhileReplaying : Handler :=
  (initial ⟨0⟩).after .standard (firstSubscription ++
    [(.zero, .resume ⟨"a"⟩ none), (.zero, .lost ⟨0⟩ .closed), (.zero, .dialed (.ok ⟨1⟩) []),
      (.zero, .lost ⟨1⟩ (.webSocket "protocol error"))])

/-- The replay outlives the handler: nobody subscribes, the handler has failed, and still the call
goes to sleep. -/
theorem replay_delays_unsubscribe :
    let begun : Moment := ⟨brokenWhileReplaying, .zero, .unsubscribe ⟨"u"⟩ .newTxs none⟩
    brokenWhileReplaying.state = .failed ∧ brokenWhileReplaying.calls = [] ∧
      brokenWhileReplaying.admits ⟨"u"⟩ = true ∧
      begun.outputs .standard = [] ∧ (begun.after .standard).Unsubscribing ⟨"u"⟩ .newTxs := by
  intro begun
  have hr : Reachable .standard brokenWhileReplaying := (Reachable.initial ⟨0⟩).after _
  have hcalls : brokenWhileReplaying.calls = [] := List.isEmpty_iff.mp (by decide +kernel)
  have hadm : brokenWhileReplaying.admits ⟨"u"⟩ = true := by decide +kernel
  have hslot : Table.get? .newTxs brokenWhileReplaying.registry.slots =
      some (.reserved (.subscribe 2 .newTxs .null) ⟨"f"⟩ (some ⟨"x"⟩)) := by
    decide +kernel
  refine ⟨by decide +kernel, hcalls, hadm, ?_⟩
  rcases outputs_unsubscribe_dead hr (by decide +kernel) (not_subscribing_of_nil hcalls) hadm
    .zero .newTxs none with
    ⟨hfree, -⟩ | ⟨sub, hactive, -⟩ | ⟨-, hzero, -⟩ | ⟨-, -, hout, backoff, delay, hsleeps⟩
  · rw [hslot] at hfree
    contradiction
  · exact absurd ⟨_, _, _, hslot⟩ (not_awaitsReplay_of_active hactive)
  · exact absurd hzero (by decide)
  · exact ⟨hout, backoff, _, hsleeps⟩

end Handler

end FeedLink.Socket
