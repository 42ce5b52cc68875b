import FeedLink.Proofs.Socket.Delivery
import FeedLink.Proofs.Socket.Diagram
import FeedLink.Proofs.Socket.Evolution

/-!
# Nothing outlives its waiter

When a connection is lost the correlator is cleared and the registry is not: reservations stay
behind without a waiter until another connection is attached, which empties the registry and
reserves what it subscribes to again. So two things are true at different times. What is pending
belongs, at any time, to a call or to a replay of the latest recovery (`Handler.attending`); and
what is reserved is pending as long as the state says that a connection is attached. A handler that
is connected waits for no replay at all.

The ids of the active subscriptions are as fresh as the connection: each was assigned by a frame of
the connection that is attached.

## Main definitions

* `Handler.attending` — the waiters whose reply may still come
* `Handler.Attended` — nothing outlives its waiter
* `AssignedOn` — a feed was assigned an id on a connection

## Main results

* `Handler.Coherent.live_step` — only the loss of a connection leaves reservations behind
* `Handler.Reachable.attended` — every reachable handler is attended
* `Handler.assignedOn_of_active` — where the id of an active subscription is from
* `Handler.nothing_outlives_its_waiter`
-/

namespace FeedLink.Socket

/-- The reader handles the acknowledgement of a feed in a frame from a connection. -/
def Moment.AcknowledgesOn (s : Settings) (link : LinkId) (f : Feed) (x : SubscriptionId)
    (m : Moment) : Prop :=
  (∃ text, m.event = .received link text) ∧ m.Acknowledges s f x

/-- A feed was acknowledged with an id in a frame from a connection. Since then it was not given up,
the handler was not closed, and no other connection was attached. -/
def AssignedOn (s : Settings) (link : LinkId) (f : Feed) (x : SubscriptionId) :
    List Moment → Prop :=
  Since (Moment.AcknowledgesOn s link f x) (Moment.Unassigns s f)

/-- A waiter is the only one with its key. -/
theorem filter_key_eq {ws : List Waiter} (hd : (ws.map Waiter.key).Nodup) {w : Waiter}
    (hw : w ∈ ws) : ws.filter (·.key = w.key) = [w] := by
  induction ws with
  | nil => simp at hw
  | cons v rest ih =>
    obtain ⟨hnot, hd⟩ := List.nodup_cons.mp hd
    rcases List.mem_cons.mp hw with rfl | hw
    · rw [List.filter_cons_of_pos (by simp), List.filter_eq_nil_iff.mpr]
      intro v hv hkey
      exact hnot (List.mem_map.mpr ⟨v, hv, by simpa using hkey⟩)
    · rw [List.filter_cons_of_neg, ih hd hw]
      intro hkey
      exact hnot (List.mem_map.mpr ⟨w, hw, by simpa [eq_comm] using hkey⟩)

namespace Handler

variable {h : Handler} {s : Settings} {now : Duration} {event : Event}

/-! ### Reservations that wait -/

/-- **Only the loss of a connection leaves reservations behind.** -/
theorem Coherent.live_step (hc : h.Coherent) (s : Settings) (now : Duration) (event : Event)
    (hlive : Live h.correlator h.registry) (hkept : h.effect s now event ≠ .lose) :
    Live (h.step s now event).1.correlator (h.step s now event).1.registry := by
  have hcause := causes_effect s now h event
  rw [correlator_step s now hc event, registry_step s now hc event]
  generalize h.effect s now event = effect at hcause hkept ⊢
  cases hcause with
  | nothing => exact hlive
  | @refuse _ what =>
    have hevicted := (hlive.register hc.tables.pending_fresh what).release h.nextKey .dropped
    rwa [show (h.registry.release h.nextKey).2 = h.registry from
      congrArg Prod.snd (Registry.release_of_none hc.tables.token_fresh)] at hevicted
  | @register _ method => exact hlive.register hc.tables.pending_fresh method
  | @reserve _ feed params callback _ _ _ hfree =>
    have hres := insertReserved_perform s now hfree params callback
    exact hlive.reserve hc.tables.pending_fresh hres ("subscribe to " ++ feed.name)
  | @unregister _ _ feed => exact hlive.unregister feed
  | withdraw => exact hlive.release _ .dropped
  | @reply _ _ key outcome =>
    simp only [perform]
    rw [registry_handleReply]
    split
    · exact hlive.confirm _ _ _
    · exact hlive.release _ _
  | lose => exact absurd rfl hkept
  | close => exact live_empty _
  | attach hdialing =>
    have hredial := Reader.isRedialing_of_dialing hdialing
    exact (hc.replayingFrom s now hredial _ _).live
  | settle =>
    exact settleReplays_invariant (P := fun h => Live h.correlator h.registry)
      (fun _ hlive => hlive.release _ .dropped) hlive

/-- A handler that was just closed, or has just lost its connection, is not online. -/
theorem offline_of_settled (hc : h.Coherent)
    (heff : h.effect s now event = .lose ∨ h.effect s now event = .close) :
    (h.step s now event).1.state.isOnline = false := by
  rcases heff with heff | heff
  · rcases state_of_lose hc heff with hstate | hstate <;> rw [hstate] <;> rfl
  · rw [state_of_close heff]
    rfl

/-! ### Those who attend -/

/-- The waiters whose reply may still come: the calls, and the replays of the latest recovery. -/
def attending (h : Handler) : List Waiter :=
  callWaiters h.calls ++ batchWaiters (h.batches.filter (·.recovery = h.recovery))

/-- Nothing outlives its waiter. -/
structure Attended (h : Handler) : Prop where
  live : h.state.isOnline = true → Live h.correlator h.registry
  /-- Nobody waits in vain for a replay of an earlier recovery. -/
  stale : ∀ b ∈ h.batches, b.recovery ≠ h.recovery →
    ∀ p ∈ b.replays, Table.get? p.pending.key h.correlator.pending = none
  /-- A connected handler waits for no replay. -/
  settled : h.state = .connected → ∀ b ∈ h.batches, b.recovery ≠ h.recovery

theorem attended_initial (link : LinkId) : (initial link).Attended where
  live := fun _ => live_empty _
  stale := by simp [Handler.initial]
  settled := by simp [Handler.initial]

/-- Looking after replays keeps some of them. -/
theorem settleReplays_sublist (s : Settings) (now : Duration) (h : Handler) (ps : List Replay) :
    (settleReplays s now h ps).2.Sublist ps := by
  induction ps generalizing h with
  | nil => exact .slnil
  | cons p rest ih =>
    have hone : (h.settleReplay s now p).2.toList.Sublist [p] := by
      unfold settleReplay
      split <;> simp
    exact hone.append (ih _)

/-- A handler that is online was in the same state before, unless a connection was attached or the
batch of the latest recovery is over. -/
theorem Coherent.state_of_online (hc : h.Coherent) (s : Settings) (now : Duration) (event : Event)
    (hon : (h.step s now event).1.state.isOnline = true)
    (hnot : ∀ link failures, h.effect s now event ≠ .attach link failures) :
    (h.step s now event).1.state = h.state ∨
      h.state = .resubscribing ∧ (h.step s now event).1.state = .connected ∧
        event = .settle h.recovery := by
  have hsteers := hc.steers s now event
  change (h.step s now event).1.control.state.isOnline = true at hon
  change (h.step s now event).1.control.state = _ ∨ _ ∧
    (h.step s now event).1.control.state = _ ∧ _
  generalize (h.step s now event).1.control = c at hsteers hon ⊢
  cases hsteers with
  | idle | rest | read | pause | wake | settle | release => exact .inl rfl
  | close | lose | fail | exhaust => contradiction
  | @attach link failures backoff hdialing hopen =>
    refine absurd ?_ (hnot link failures)
    simp only [effect, hdialing, if_neg hopen]
  | complete =>
    dsimp only
    split
    · next hst => exact .inr ⟨hst.1, rfl, congrArg Event.settle hst.2.symm⟩
    · exact .inl rfl

theorem Coherent.online_of_online_step (hc : h.Coherent) (s : Settings) (now : Duration)
    (event : Event) (hon : (h.step s now event).1.state.isOnline = true)
    (hnot : ∀ link failures, h.effect s now event ≠ .attach link failures) :
    h.state.isOnline = true := by
  rcases hc.state_of_online s now event hon hnot with hstate | ⟨hstate, -, -⟩
  · rwa [hstate] at hon
  · rw [hstate]
    rfl

/-- The reservations of a handler that is online wait for a reply. -/
theorem Coherent.attended_live (hc : h.Coherent) (ha : h.Attended) (s : Settings) (now : Duration)
    (event : Event) (hon : (h.step s now event).1.state.isOnline = true) :
    Live (h.step s now event).1.correlator (h.step s now event).1.registry := by
  by_cases hattach : ∃ link failures, h.effect s now event = .attach link failures
  · obtain ⟨link, failures, heff⟩ := hattach
    exact (hc.step event).live (congrArg Control.reader (control_of_attach hc heff).2)
  · have hbefore := hc.online_of_online_step s now event hon fun link failures heff =>
      hattach ⟨link, failures, heff⟩
    refine hc.live_step s now event (ha.live hbefore) fun heff => ?_
    simp [offline_of_settled hc (.inl heff)] at hon

/-- The replays that are left after a step were there before it, in a batch with the same number,
unless a recovery has just made them. -/
theorem Coherent.replay_step (hc : h.Coherent) (s : Settings) (now : Duration) (event : Event)
    {b : Batch} (hb : b ∈ (h.step s now event).1.batches) {p : Replay} (hp : p ∈ b.replays) :
    (h.step s now event).1.recovery = h.recovery ∧
        (∃ b' ∈ h.batches, b'.recovery = b.recovery ∧ p ∈ b'.replays) ∨
      (h.step s now event).1.recovery = h.recovery + 1 ∧ h.correlator.pending = [] ∧
        (b ∈ h.batches ∨ b.recovery = h.recovery + 1) := by
  have hsteers := hc.steers s now event
  change b ∈ (h.step s now event).1.control.batches at hb
  change (h.step s now event).1.control.recovery = _ ∧ _ ∨
    (h.step s now event).1.control.recovery = _ ∧ _
  generalize (h.step s now event).1.control = c at hsteers hb ⊢
  cases hsteers with
  | idle | close | rest | read | lose | fail | pause | exhaust | wake | release =>
    exact .inl ⟨rfl, b, hb, rfl, hp⟩
  | attach hdialing =>
    refine .inr ⟨rfl, (hc.redialing (Reader.isRedialing_of_dialing hdialing)).2, ?_⟩
    exact (List.mem_append.mp hb).imp id fun hb => by rw [List.mem_singleton.mp hb]
  | @settle batch others hperm =>
    refine .inl ⟨rfl, ?_⟩
    rcases List.mem_append.mp hb with hb | hb
    · exact ⟨b, hperm.mem_iff.mpr (List.mem_cons_of_mem _ hb), rfl, hp⟩
    · obtain rfl := List.mem_singleton.mp hb
      refine ⟨batch, hperm.mem_iff.mpr (List.mem_cons_self ..), rfl, ?_⟩
      exact (settleReplays_sublist s now h batch.replays).subset hp
  | complete hperm =>
    exact .inl ⟨rfl, b, hperm.mem_iff.mpr (List.mem_cons_of_mem _ hb), rfl, hp⟩

theorem Coherent.stale_step (hc : h.Coherent) (ha : h.Attended) (s : Settings) (now : Duration)
    (event : Event) :
    ∀ b ∈ (h.step s now event).1.batches, b.recovery ≠ (h.step s now event).1.recovery →
      ∀ p ∈ b.replays,
        Table.get? p.pending.key (h.step s now event).1.correlator.pending = none := by
  intro b hb hne p hp
  have hbefore : p.waiter ∈ h.waiters ∧
      Table.get? p.pending.key h.correlator.pending = none := by
    rcases hc.replay_step s now event hb hp with
      ⟨hrecovery, b', hb', heq, hp'⟩ | ⟨hrecovery, hpending, hold | hnew⟩
    · refine ⟨mem_waiters_of_replay hb' hp', ha.stale b' hb' ?_ p hp'⟩
      rwa [heq, ← hrecovery]
    · exact ⟨mem_waiters_of_replay hold hp, by simp [hpending]⟩
    · exact absurd (hnew.trans hrecovery.symm) hne
  exact (hc.evolves_step s now event).pending_none (hc.tables.waiter_issued hbefore.1) hbefore.2

theorem Coherent.settled_step (hc : h.Coherent) (ha : h.Attended) (s : Settings) (now : Duration)
    (event : Event) (hstate : (h.step s now event).1.state = .connected) :
    ∀ b ∈ (h.step s now event).1.batches, b.recovery ≠ (h.step s now event).1.recovery := by
  have hsteers := hc.steers s now event
  change ∀ b ∈ (h.step s now event).1.control.batches,
    b.recovery ≠ (h.step s now event).1.control.recovery
  change (h.step s now event).1.control.state = .connected at hstate
  generalize (h.step s now event).1.control = c at hsteers hstate ⊢
  cases hsteers with
  | idle | rest | read | pause | wake | release => exact ha.settled hstate
  | close | lose | fail | attach | exhaust => contradiction
  | @settle batch others hperm =>
    intro b hb
    rcases List.mem_append.mp hb with hb | hb
    · exact ha.settled hstate b (hperm.mem_iff.mpr (List.mem_cons_of_mem _ hb))
    · obtain rfl := List.mem_singleton.mp hb
      exact ha.settled hstate batch (hperm.mem_iff.mpr (List.mem_cons_self ..))
  | @complete batch others hperm =>
    intro b hb
    dsimp only at hstate
    split at hstate
    · next hst =>
      -- the batch that is over was the only one with its number
      have hnodup := (hperm.map (·.recovery)).nodup_iff.mp hc.recoveries
      rw [List.map_cons, List.nodup_cons] at hnodup
      intro hrecovery
      exact hnodup.1 (List.mem_map.mpr ⟨b, hb, hrecovery.trans hst.2⟩)
    · exact ha.settled hstate b (hperm.mem_iff.mpr (List.mem_cons_of_mem _ hb))

/-- **Every reachable handler is attended.** -/
theorem Reachable.attended (hr : Reachable s h) : h.Attended := by
  induction hr with
  | initial link => exact attended_initial link
  | step now event hr ih =>
    exact ⟨hr.coherent.attended_live ih s now event, hr.coherent.stale_step ih s now event,
      hr.coherent.settled_step ih s now event⟩

/-! ### Who waits -/

/-- What is pending belongs to a waiter whose reply may still come. -/
theorem Attended.owned (ha : h.Attended) (hc : h.Coherent) {key : String} {ticket : Ticket}
    (hp : Table.get? key h.correlator.pending = some ticket) :
    ∃ w ∈ h.attending, w.key = key ∧ w.ticket = ticket := by
  obtain ⟨w, hw, rfl, rfl⟩ := hc.tables.owned hp
  refine ⟨w, ?_, rfl, rfl⟩
  rcases List.mem_append.mp hw with hw | hw
  · exact List.mem_append_left _ hw
  · obtain ⟨b, hb, hreplay⟩ := List.mem_flatMap.mp hw
    obtain ⟨p, hp', rfl⟩ := List.mem_map.mp hreplay
    refine List.mem_append_right _ (List.mem_flatMap.mpr ⟨b, List.mem_filter.mpr ⟨hb, ?_⟩, hreplay⟩)
    rw [decide_eq_true_iff]
    by_contra hne
    have hnone := ha.stale b hb hne p hp'
    exact absurd (hp.symm.trans hnone) (by simp)

theorem attending_subset (h : Handler) : h.attending ⊆ h.waiters := by
  intro w hw
  rcases List.mem_append.mp hw with hw | hw
  · exact List.mem_append_left _ hw
  · obtain ⟨b, hb, hreplay⟩ := List.mem_flatMap.mp hw
    exact List.mem_append_right _
      (List.mem_flatMap.mpr ⟨b, (List.mem_filter.mp hb).1, hreplay⟩)

/-- What is reserved while a handler is online was reserved for a waiter, who is pending. -/
theorem Attended.waiter_of_token (ha : h.Attended) (hc : h.Coherent)
    (hon : h.state.isOnline = true) {token : String} {f : Feed}
    (htoken : Table.get? token h.registry.byToken = some f) :
    ∃ w ∈ h.attending, w.key = token ∧ w.role.feed? = some f ∧
      Table.get? token h.correlator.pending = some w.ticket := by
  obtain ⟨ticket, hp⟩ := ha.live hon token f htoken
  obtain ⟨w, hw, rfl, rfl⟩ := ha.owned hc hp
  obtain ⟨request, callback, previous, hslot, hkey⟩ := hc.tables.registry.slot_of_token htoken
  exact ⟨w, hw, rfl, (hc.tables.place (h.attending_subset hw) hslot hkey).1, hp⟩

/-- A connected handler has no reservation for a replay. -/
theorem Attended.previous_of_connected (ha : h.Attended) (hc : h.Coherent)
    (hstate : h.state = .connected) {f : Feed} {request : Request} {callback : Callback}
    {previous : Option SubscriptionId}
    (hslot : Table.get? f h.registry.slots = some (.reserved request callback previous)) :
    previous = none := by
  obtain ⟨w, hw, hkey, -, -⟩ := ha.waiter_of_token hc (by rw [hstate]; rfl)
    (hc.tables.registry.token_of_slot hslot)
  have hrole := (hc.tables.place (h.attending_subset hw) hslot hkey.symm).2
  rcases List.mem_append.mp hw with hw | hw
  · obtain ⟨⟨call, c⟩, -, hwaiter⟩ := List.mem_filterMap.mp hw
    rw [Call.isReplay_waiter hwaiter] at hrole
    simpa using hrole.symm
  · obtain ⟨b, hb, -⟩ := List.mem_flatMap.mp hw
    obtain ⟨hb, hrecovery⟩ := List.mem_filter.mp hb
    exact absurd (by simpa using hrecovery) (ha.settled hstate b hb)

/-! ### Where ids are from -/

/-- A connection that is attached was attached before, unless a recovery has just attached it. -/
theorem Coherent.link_step (hc : h.Coherent) (s : Settings) (now : Duration) (event : Event)
    {link : LinkId} (hlink : (h.step s now event).1.link = some link)
    (hr : (h.step s now event).1.released = false) :
    h.released = false ∧
      (h.link = some link ∨ ∃ failures, h.effect s now event = .attach link failures) := by
  have hsteers := hc.steers s now event
  change (h.step s now event).1.control.link = _ at hlink
  change (h.step s now event).1.control.released = _ at hr
  generalize (h.step s now event).1.control = c at hsteers hlink hr
  cases hsteers with
  | close | lose | fail | release => contradiction
  | idle | rest | read | pause | exhaust | wake | settle | complete => exact ⟨hr, .inl hlink⟩
  | @attach link' failures _ hdialing hopen =>
    obtain rfl : link' = link := Option.some.inj hlink
    exact ⟨hr, .inr ⟨failures, by simp only [effect, hdialing, if_neg hopen]⟩⟩

/-- **Where the id of an active subscription is from**: a frame of the connection that is
attached. -/
theorem assignedOn_of_active (s : Settings) (first : LinkId) (events : List (Duration × Event))
    {link : LinkId} (hr : ((initial first).after s events).released = false)
    (hlink : ((initial first).after s events).link = some link) {f : Feed} {x : SubscriptionId}
    (hactive : ((initial first).after s events).Active f x) :
    AssignedOn s link f x (moments s (initial first) events) := by
  induction events using List.reverseRecOn with
  | nil =>
    obtain ⟨sub, hsub, -⟩ := hactive
    simp [Handler.initial, Registry.empty] at hsub
  | append_singleton events e ih =>
    have hc := ((Reachable.initial (s := s) first).after events).coherent
    rw [after_concat] at hr hlink hactive
    obtain ⟨hr', hlink'⟩ := hc.link_step s e.1 e.2 hlink hr
    rw [moments_concat]
    refine since_concat.mpr ?_
    rcases (active_after_iff hc).mp hactive with ⟨key, heff, htoken⟩ | ⟨hbefore, hnot⟩
    · -- the reader reads from the connection that is attached
      refine .inl ⟨?_, key, heff, htoken⟩
      have hcause := causes_effect s e.1 ((initial first).after s events) e.2
      simp only [Moment.effect] at heff
      rw [heff] at hcause
      generalize hevent : e.2 = event at hcause
      cases hcause with
      | reply hreading =>
        rcases hlink' with hlink' | ⟨failures, hattach⟩
        · obtain ⟨hreading', -⟩ := hc.attached hlink' hr'
          obtain rfl := Reader.reading.inj (hreading.symm.trans hreading')
          exact ⟨_, rfl⟩
        · rw [heff] at hattach
          contradiction
    · refine .inr ⟨ih hr' (hlink'.resolve_right ?_) hbefore, hnot⟩
      rintro ⟨failures, hattach⟩
      exact hnot (.inr (.inr ⟨link, failures, hattach⟩))

/-! ### The tables of a reachable handler -/

/-- **Nothing outlives its waiter.** After any run, and until the handler is dropped, a connection
is attached exactly where the state says so. While one is attached, the tokens are those of the
feeds that are reserved, and each of them is pending for a waiter who has reserved the feed; every
pending key belongs to one waiter and no other, a call that has not returned or a replay of the
latest recovery, and is settled for nobody; and the id of every active subscription was assigned by
a frame of that connection. -/
theorem nothing_outlives_its_waiter (s : Settings) (first : LinkId)
    (events : List (Duration × Event)) :
    let h := (initial first).after s events
    h.released = false →
    h.link.isSome = h.state.isOnline ∧
    ∀ link, h.link = some link →
      (∀ token f, Table.get? token h.registry.byToken = some f ↔
        ∃ request callback previous,
          Table.get? f h.registry.slots = some (.reserved request callback previous) ∧
            request.id.key = token) ∧
      (∀ token f, Table.get? token h.registry.byToken = some f →
        ∃ w ∈ h.attending, w.key = token ∧ w.role.feed? = some f ∧
          Table.get? token h.correlator.pending = some w.ticket) ∧
      (∀ key ticket, Table.get? key h.correlator.pending = some ticket →
        ∃ w ∈ h.attending, h.waiters.filter (·.key = key) = [w] ∧ w.ticket = ticket ∧
          h.correlator.settlement? ticket = none) ∧
      ∀ f sub, Table.get? f h.registry.slots = some (.active sub) →
        AssignedOn s link f sub.id (moments s (initial first) events) := by
  intro h hr
  have hreach : Reachable s h := (Reachable.initial first).after events
  have hc := hreach.coherent
  have ha := hreach.attended
  have hstate := hreach.orderly.attached hr
  refine ⟨hstate, fun link hlink => ⟨fun token f => ⟨hc.tables.registry.slot_of_token, ?_⟩,
    fun token f => ha.waiter_of_token hc ?_, fun key ticket hp => ?_, fun f sub hsub => ?_⟩⟩
  · rintro ⟨request, callback, previous, hslot, rfl⟩
    exact hc.tables.registry.token_of_slot hslot
  · rw [← show h.link.isSome = h.state.isOnline from hstate, hlink]
    rfl
  · obtain ⟨w, hw, rfl, rfl⟩ := ha.owned hc hp
    exact ⟨w, hw, filter_key_eq hc.tables.distinct (h.attending_subset hw), rfl,
      hc.tables.correlator.unsettled hp⟩
  · exact assignedOn_of_active s first events hr hlink ⟨sub, hsub, rfl⟩

/-- A subscription that is made again on a second connection is reserved, and waits for a reply. -/
theorem second_subscription_waits :
    let h := (initial ⟨0⟩).after .standard (lostSubscription ++ [(.zero, .dialed (.ok ⟨1⟩) [])])
    h.link = some ⟨1⟩ ∧ ∃ w ∈ h.attending, w.key = "2" ∧ w.role.feed? = some .newTxs ∧
      Table.get? "2" h.correlator.pending = some w.ticket := by
  intro h
  have hreleased : h.released = false := by decide +kernel
  have hlink : h.link = some ⟨1⟩ := by decide +kernel
  have htoken : Table.get? "2" h.registry.byToken = some .newTxs := by decide +kernel
  obtain ⟨-, hattached⟩ := nothing_outlives_its_waiter .standard ⟨0⟩ _ hreleased
  exact ⟨hlink, (hattached ⟨1⟩ hlink).2.1 "2" .newTxs htoken⟩

end Handler

end FeedLink.Socket
