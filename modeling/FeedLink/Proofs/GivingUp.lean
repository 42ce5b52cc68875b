import FeedLink.Proofs.Grpc.Receiver
import FeedLink.Proofs.Socket.Control
import FeedLink.Proofs.Socket.Delivery

/-!
# Who is told that a subscription is lost for good

A stream and a connection are given up in different ways. A receiver that cannot open its stream
again ends, and the last thing that it does is to tell its callback why. A handler that cannot dial
its connection again fails, and tells whoever joins its reader; but it keeps its registry, and calls
no callback. From there on the handler is `Stranded`: no push can come, nothing can be given up one
by one, and until somebody closes the handler every subscription that it held stays where it was.

## Main definitions

* `Socket.Handler.Stranded` — nothing is attached, nobody is pending, and the reader has ended

## Main results

* `Grpc.Handler.told_when_ended` — a receiver that ends tells its callback why
* `Socket.Handler.Reachable.stranded_of_failed` — what giving up a connection leaves
* `Socket.Handler.Stranded.slot_step` — a stranded handler keeps its subscriptions until it is
  closed
* `told_of_streams_only`
-/

namespace FeedLink

namespace Grpc.Handler

variable {s : Settings} {now : Duration} {h : Handler} {event : Event} {token : Token}
  {r : Receiver}

/-- **A receiver that ends tells its callback why**, and the handler does nothing else; or it has
ended because its stream did, or because it was wanted no more. -/
theorem told_when_ended (hr : Table.get? token h.receivers = some r)
    (hrunning : r.hasEnded = false) (hended : (h.step s now event).1.hasEnded token = true) :
    ∃ signal, event = .signal token signal ∧
      (signal.IsQuiet ∨ ∃ status, signal.status? = some status ∧
        (h.step s now event).2 = [.notified r.callback (.error status.toError)]) := by
  have hadvances := advances_step s now h token event
  unfold hasEnded at hended
  generalize Table.get? token (h.step s now event).1.receivers = after at hadvances hended
  generalize (h.step s now event).2 = outputs at hadvances ⊢
  cases hadvances with
  | keep =>
    rw [hr] at hended
    simp [hrunning] at hended
  | begin hreceiving => simp [Receiver.hasEnded, hreceiving] at hended
  | @signal signal held r' acts hheld hmoves =>
    obtain rfl : r = held := Option.some.inj (hr.symm.trans hheld)
    refine ⟨signal, rfl, (hmoves.told hrunning hended).imp id ?_⟩
    rintro ⟨status, hstatus, rfl⟩
    exact ⟨status, hstatus, rfl⟩

end Grpc.Handler

namespace Socket.Handler

variable {h : Handler} {s : Settings} {now : Duration} {event : Event} {m : Moment} {f : Feed}
  {lost : Subscription}

/-- Nothing is attached, nobody is pending, and the reader has ended. -/
structure Stranded (h : Handler) : Prop where
  detached : h.link = none
  silent : h.correlator.pending = []
  ended : ∃ outcome, h.reader = .ended outcome

/-! ### A connection is given up -/

/-- **What giving up a connection leaves**: whoever joins the reader is told why, nobody else is,
and the registry is as it was. -/
theorem Reachable.stranded_of_failed (hr : Reachable s m.before)
    (hbefore : m.before.state ≠ .failed) (hafter : (m.after s).state = .failed) :
    (m.after s).Stranded ∧ (∃ e, (m.after s).reader = .ended (.error e)) ∧
      m.notifications s = [] ∧ (m.after s).registry = m.before.registry := by
  have hc := hr.coherent
  have hsteers := hc.steers s m.now m.event
  have hcorrelator := correlator_step s m.now hc m.event
  have hregistry := registry_step s m.now hc m.event
  have hquiet : (∀ link text, m.event ≠ .received link text) → m.notifications s = [] :=
    Moment.notifications_of_other
  change (m.after s).control.state = .failed at hafter
  suffices h : (m.after s).control.link = none ∧ (m.after s).correlator.pending = [] ∧
      (∃ e, (m.after s).control.reader = .ended (.error e)) ∧ m.notifications s = [] ∧
        (m.after s).registry = m.before.registry by
    obtain ⟨hlink, hpending, ⟨e, hreader⟩, hsilent, hsame⟩ := h
    exact ⟨⟨hlink, hpending, _, hreader⟩, ⟨e, hreader⟩, hsilent, hsame⟩
  unfold Moment.after at hafter ⊢
  generalize hevent : m.event = event at *
  generalize (m.before.step s m.now event).1.control = c at hsteers hafter ⊢
  cases hsteers with
  | idle | rest | read | pause | wake | settle | release => exact absurd hafter hbefore
  | close | lose | attach => contradiction
  | complete =>
    dsimp only at hafter
    split at hafter
    · contradiction
    · exact absurd hafter hbefore
  | @fail link e hreading hrunning =>
    have heff : m.before.effect s m.now (.lost link e) = .lose := by
      simp [effect, hreading, hrunning]
    rw [heff] at hcorrelator hregistry
    exact ⟨rfl, by rw [hcorrelator]; rfl, ⟨_, rfl⟩, hquiet (by simp), hregistry⟩
  | @exhaust e failures backoff next hdialing hspent =>
    obtain ⟨hlink, hpending⟩ := hc.redialing (Reader.isRedialing_of_dialing hdialing)
    exact ⟨hlink, hcorrelator.symm ▸ hpending, ⟨_, rfl⟩, hquiet (by simp), hregistry⟩

/-! ### What is left afterwards -/

theorem Stranded.not_reading (hs : h.Stranded) {link : LinkId} : h.reader ≠ .reading link := by
  obtain ⟨outcome, hended⟩ := hs.ended
  simp [hended]

theorem Stranded.not_dialing (hs : h.Stranded) {backoff : Backoff} :
    h.reader ≠ .dialing backoff := by
  obtain ⟨outcome, hended⟩ := hs.ended
  simp [hended]

/-- A stranded handler stays stranded. -/
theorem Stranded.step (hs : h.Stranded) (hc : h.Coherent) (s : Settings) (now : Duration)
    (event : Event) : (h.step s now event).1.Stranded := by
  have hcontrol : (h.step s now event).1.control.link = none ∧
      ∃ outcome, (h.step s now event).1.control.reader = .ended outcome := by
    have hsteers := hc.steers s now event
    generalize (h.step s now event).1.control = c at hsteers ⊢
    cases hsteers with
    | idle | settle | complete => exact ⟨hs.detached, hs.ended⟩
    | close | release => exact ⟨rfl, hs.ended⟩
    | rest => exact ⟨hs.detached, _, rfl⟩
    | read hreading | lose hreading | fail hreading => exact absurd hreading hs.not_reading
    | attach hdialing | pause hdialing | exhaust hdialing => exact absurd hdialing hs.not_dialing
    | wake hpausing =>
      obtain ⟨outcome, hended⟩ := hs.ended
      simp [hended] at hpausing
  refine ⟨hcontrol.1, ?_, hcontrol.2⟩
  have hsettled : ∀ key settlement, (h.correlator.settle key settlement).2.pending = [] :=
    fun key settlement => by simp [Correlator.settle, hs.silent]
  have hcause := causes_effect s now h event
  rw [correlator_step s now hc event]
  generalize h.effect s now event = effect at hcause ⊢
  cases hcause with
  | nothing | unregister => exact hs.silent
  | refuse _ _ hattached | register _ hattached | reserve _ hattached =>
    simp [hs.detached] at hattached
  | withdraw | reply => exact hsettled _ _
  | lose | close => rfl
  | attach hdialing => exact absurd hdialing hs.not_dialing
  | settle =>
    refine settleReplays_invariant (P := (·.correlator.pending = [])) (fun p hk => ?_) hs.silent
    simp [withdraw, Correlator.evict, Correlator.settle, hk]

/-- No push comes to a stranded handler. -/
theorem Stranded.notifications (hs : m.before.Stranded) (s : Settings) :
    m.notifications s = [] := by
  refine notifications_of_no_push s ?_
  rintro x payload ⟨link, text, -, hreading, -⟩
  exact hs.not_reading hreading

/-- Nobody waits in vain for a replay on a stranded handler. -/
theorem Stranded.not_expired (hs : h.Stranded) (hc : h.Coherent) {b : Batch} (hb : b ∈ h.batches)
    {p : Replay} (hp : p ∈ b.replays) : ¬h.Expired now p := by
  rintro ⟨hnone, -⟩
  rcases hc.tables.waits (mem_waiters_of_replay hb hp) with hpending | ⟨-, v, hv⟩
  · simp [hs.silent] at hpending
  · exact absurd (hv.symm.trans hnone) (by simp)

/-- **A stranded handler keeps its subscriptions until it is closed.** -/
theorem Stranded.slot_step (hs : h.Stranded) (hc : h.Coherent)
    (hopen : h.effect s now event ≠ .close) (hlost : h.registry.replayable? f = some lost) :
    Table.get? f (h.step s now event).1.registry.slots = Table.get? f h.registry.slots := by
  have hbecomes := hc.becomes s now event f
  have hcause := causes_effect s now h event
  unfold Registry.replayable? at hlost
  generalize h.effect s now event = effect at hbecomes hcause hopen
  generalize Table.get? f h.registry.slots = before at hbecomes hlost ⊢
  generalize Table.get? f (h.step s now event).1.registry.slots = after at hbecomes ⊢
  cases hbecomes with
  | kept => rfl
  | reserved | withdrawn => contradiction
  | unregistered =>
    cases hcause with
    | unregister _ hattached => simp [hs.detached] at hattached
  | acknowledged | denied =>
    cases hcause with
    | reply hreading => exact absurd hreading hs.not_reading
  | expired hexpired =>
    cases hcause with
    | settle hfound =>
      obtain ⟨p, hp, -, hout⟩ := hexpired
      exact absurd hout (hs.not_expired hc (List.mem_of_find?_eq_some hfound) hp)
  | closed => contradiction
  | dropped | replayed | refused =>
    cases hcause with
    | attach hdialing => exact absurd hdialing hs.not_dialing

/-- As long as nobody closes a stranded handler, no one is notified and every subscription stays. -/
theorem Stranded.after (hs : h.Stranded) (hr : Reachable s h) (events : List (Duration × Event))
    (hopen : ∀ m ∈ moments s h events, m.effect s ≠ .close) :
    (∀ m ∈ moments s h events, m.notifications s = []) ∧
      ∀ f lost, h.registry.replayable? f = some lost →
        Table.get? f (h.after s events).registry.slots = Table.get? f h.registry.slots := by
  induction events generalizing h with
  | nil => exact ⟨by simp, fun _ _ _ => rfl⟩
  | cons e rest ih =>
    obtain ⟨now, event⟩ := e
    obtain ⟨hfirst, hrest⟩ := List.forall_mem_cons.mp hopen
    obtain ⟨hsilent, hkept⟩ := ih (hs.step hr.coherent s now event) (hr.step now event) hrest
    refine ⟨List.forall_mem_cons.mpr ⟨hs.notifications s, hsilent⟩, fun f lost hlost => ?_⟩
    have hslot := hs.slot_step hr.coherent hfirst hlost
    refine (hkept f lost ?_).trans hslot
    rwa [Registry.replayable?, hslot]

end Socket.Handler

/-- **Who is told that a subscription is lost for good.** When a receiver ends, the last thing it
does is to tell its callback why, unless its stream has ended or nobody wants it any more: it does
so whenever a stream could not be opened again. When a handler fails, whoever joins its reader is
told why, but no callback is, and the registry stays as it is; and until somebody closes the handler
no callback is called any more, and every subscription stays in its slot. So everybody who loses a
subscription is told, or is at least let go, exactly if there is no subscription to lose. -/
theorem told_of_streams_only (gateway : Grpc.Settings) (now : Duration) (h : Grpc.Handler)
    (event : Grpc.Event) (token : Grpc.Token) (r : Grpc.Receiver) (s : Socket.Settings)
    (m : Socket.Moment) :
    (Table.get? token h.receivers = some r → r.hasEnded = false →
      (h.step gateway now event).1.hasEnded token = true →
        ∃ signal, event = .signal token signal ∧
          (signal.IsQuiet ∨ ∃ status, signal.status? = some status ∧
            (h.step gateway now event).2 = [.notified r.callback (.error status.toError)])) ∧
    (Socket.Handler.Reachable s m.before →
      m.before.state ≠ .failed → (m.after s).state = .failed →
        (∃ e, (m.after s).reader = .ended (.error e)) ∧
        m.notifications s = [] ∧ (m.after s).registry = m.before.registry ∧
        (∀ later, (∀ m' ∈ Socket.Handler.moments s (m.after s) later, m'.effect s ≠ .close) →
          (∀ m' ∈ Socket.Handler.moments s (m.after s) later, m'.notifications s = []) ∧
          ∀ f lost, m.before.registry.replayable? f = some lost →
            Table.get? f ((m.after s).after s later).registry.slots =
              Table.get? f m.before.registry.slots) ∧
        ((∀ f lost, m.before.registry.replayable? f = some lost →
            (∃ e, (lost.callback, .error e) ∈ m.notifications s) ∨
              Table.get? f (m.after s).registry.slots = none) ↔
          ∀ f, m.before.registry.replayable? f = none)) := by
  refine ⟨Grpc.Handler.told_when_ended, fun hr hbefore hafter => ?_⟩
  obtain ⟨hstranded, hjoin, hsilent, hregistry⟩ := hr.stranded_of_failed hbefore hafter
  have hreach : Socket.Handler.Reachable s (m.after s) := hr.step m.now m.event
  refine ⟨hjoin, hsilent, hregistry, fun later hopen => ?_, fun htold f => ?_,
    fun hnone f lost hlost => by simp [hnone] at hlost⟩
  · obtain ⟨hquiet, hkept⟩ := hstranded.after hreach later hopen
    rw [hregistry] at hkept
    exact ⟨hquiet, hkept⟩
  · cases hlost : m.before.registry.replayable? f with
    | none => rfl
    | some lost =>
      obtain ⟨slot, hslot, -⟩ := Option.bind_eq_some_iff.mp hlost
      rcases htold f lost hlost with ⟨e, hmem⟩ | hgone
      · simp [hsilent] at hmem
      · simp [hregistry, hslot] at hgone

/-- The connection of the first subscription breaks in a way that no dial can mend. -/
def firstSubscriptionBreaks : Socket.Moment where
  before := (Socket.Handler.initial ⟨0⟩).after .standard Socket.firstSubscription
  now := .zero
  event := .lost ⟨0⟩ (.webSocket "protocol error")

/-- The first subscription is lost for good: its callback is not called, and still held. -/
theorem first_subscription_is_lost_in_silence :
    let m := firstSubscriptionBreaks
    Socket.Handler.Reachable .standard m.before ∧ m.before.state = .connected ∧
      (m.after .standard).state = .failed ∧ m.notifications .standard = [] ∧
      Table.get? .newTxs (m.after .standard).registry.slots =
        some (.active ⟨.newTxs, .subscribe 1 .newTxs .null, ⟨"f"⟩, ⟨"x"⟩⟩) := by
  refine ⟨(Socket.Handler.Reachable.initial ⟨0⟩).after _, ?_, ?_, ?_, ?_⟩ <;> cbv

/-- A stream of new transactions has failed, and is being opened again. -/
def Grpc.reopeningStream : Grpc.Handler :=
  (Grpc.Handler.run .standard .initial
    [(.zero, .subscribe ⟨"a"⟩ .newTxs .null ⟨"f"⟩), (.zero, .opened ⟨"a"⟩ (.ok ⟨0⟩)),
      (.zero, .signal ⟨0⟩ (.failed ⟨0⟩ ⟨.unavailable, "restart"⟩))]).1

/-- The stream is not served any more, and its callback is told so; the connection breaks, and the
callback of its subscription is not told. -/
theorem told_of_first_stream_only :
    (Grpc.reopeningStream.step .standard .zero
        (.signal ⟨0⟩ (.opened (.error (.unimplemented "newTxs"))))).2 =
      [.notified ⟨"f"⟩ (.error (.unsupported "newTxs"))] ∧
    firstSubscriptionBreaks.notifications .standard = [] ∧
    ¬∀ f lost, firstSubscriptionBreaks.before.registry.replayable? f = some lost →
      (∃ e, (lost.callback, .error e) ∈ firstSubscriptionBreaks.notifications .standard) ∨
        Table.get? f (firstSubscriptionBreaks.after .standard).registry.slots = none := by
  obtain ⟨hstream, hconnection⟩ := told_of_streams_only .standard .zero Grpc.reopeningStream
    (.signal ⟨0⟩ (.opened (.error (.unimplemented "newTxs")))) ⟨0⟩
    ⟨.newTxs, .null, ⟨"f"⟩, .reopening ⟨0⟩ (.start Grpc.Settings.standard.reopenSchedule .zero)⟩
    .standard firstSubscriptionBreaks
  obtain ⟨signal, hsignal, hquiet | ⟨status, hstatus, htold⟩⟩ := hstream rfl rfl rfl
  · obtain rfl := (Grpc.Event.signal.inj hsignal).2
    contradiction
  · obtain rfl := (Grpc.Event.signal.inj hsignal).2
    obtain rfl := Option.some.inj hstatus
    obtain ⟨-, hsilent, -, -, hall⟩ :=
      hconnection ((Socket.Handler.Reachable.initial ⟨0⟩).after _) (by cbv; simp) (by cbv)
    refine ⟨htold, hsilent, fun htold => ?_⟩
    have hnone := hall.mp htold .newTxs
    have hsome : (firstSubscriptionBreaks.before.registry.replayable? .newTxs).isSome = true := by
      cbv
    rw [hnone] at hsome
    contradiction

end FeedLink
