import FeedLink.Proofs.Socket.Control
import FeedLink.Proofs.Socket.Moment
import FeedLink.Proofs.Socket.Slot

/-!
# What a recovery keeps

A subscription that is active is held through the loss of its connection and through every recovery
that follows: it stays as it was until a connection is attached, is reserved there for a request
that repeats its own, and is active again with the callback it had. It ends when its caller gives it
up, when the server answers a replay of it with anything but a string, and when nobody answers a
replay in time.

There is one more way to end. A connection that refuses the request as it is attached leaves nothing
of the subscription behind, although the handler goes on: a replay that was written is carried over
when its connection is lost, and one that could not be written is not. What was refused is forgotten
by every later recovery.

## Main definitions

* `Handler.Retains` — a feed is active, or reserved for a replay, as it once was
* `Moment.Excuses` — a caller, the server or the time ends how a feed is held
* `Moment.Refuses` — a connection refuses the replay of a feed as it is attached

## Main results

* `Handler.Retains.step_iff` — the steps that end how a feed is held
* `Handler.retained_iff_never_refused` — a subscription is held as long as no connection refuses it
-/

namespace FeedLink.Socket

open Json

/-- The two requests differ in their ids only. -/
def Repeats (request original : Request) : Prop := { request with id := original.id } = original

theorem Repeats.refl (request : Request) : Repeats request request := rfl

theorem repeats_withFreshId {request original : Request} (n : Nat) :
    Repeats (request.withFreshId n) original ↔ Repeats request original := Iff.rfl

/-- The slot holds a feed as a subscription once did: it is active, or reserved for a replay, by a
request with the same method and parameters and with the same callback. -/
def Slot.Retains (lost : Subscription) : Slot → Prop
  | .active sub => Repeats sub.request lost.request ∧ sub.callback = lost.callback
  | .reserved request callback previous =>
    previous.isSome = true ∧ Repeats request lost.request ∧ callback = lost.callback

/-- The feed of a subscription is held as it was by the subscription. -/
def Handler.Retains (lost : Subscription) (h : Handler) : Prop :=
  ∃ slot, Table.get? lost.feed h.registry.slots = some slot ∧ slot.Retains lost

/-- The effects by which a caller, the server or the time ends how a feed is held: the feed is given
up, its reservation is answered with anything but a string, or a replay of it has expired. -/
def Effect.Excuses (h : Handler) (now : Duration) (f : Feed) : Effect → Prop
  | .unregister g => g = f
  | .reply key outcome =>
    Table.get? key h.registry.byToken = some f ∧ ∀ x, outcome ≠ .ok (.str x)
  | .settle replays => ∃ p ∈ replays, p.feed = f ∧ h.Expired now p
  | _ => False

/-- A connection is attached that refuses the request for a feed. -/
def Effect.Refuses (h : Handler) (f : Feed) : Effect → Prop
  | .attach _ failures => (answerTo f h.registry.replayables failures).isSome = true
  | _ => False

namespace Moment

/-- A caller, the server or the time ends how a feed is held. -/
def Excuses (s : Settings) (f : Feed) (m : Moment) : Prop :=
  (m.effect s).Excuses m.before m.now f

/-- A connection refuses the replay of a feed as it is attached. -/
def Refuses (s : Settings) (f : Feed) (m : Moment) : Prop := (m.effect s).Refuses m.before f

end Moment

namespace Handler

variable {h h' : Handler} {s : Settings} {now : Duration} {event : Event} {lost : Subscription}

/-! ### One step -/

/-- What an effect does not touch, it does not end. -/
theorem not_ended_of_untouched {effect : Effect} {f : Feed} (huntouched : ¬effect.Touches h now f) :
    effect ≠ .close ∧ ¬effect.Excuses h now f ∧ ¬effect.Refuses h f := by
  refine ⟨?_, fun hexcuse => huntouched ?_, fun hrefuse => huntouched ?_⟩
  · rintro rfl
    exact huntouched trivial
  · cases effect with
    | unregister | settle => exact hexcuse
    | reply => exact hexcuse.1
    | _ => contradiction
  · cases effect with
    | attach => trivial
    | _ => contradiction

theorem retains_of_active (hc : h.registry.Coherent) {f : Feed}
    (hactive : Table.get? f h.registry.slots = some (.active lost)) : h.Retains lost := by
  obtain rfl := hc.feed_of_active hactive
  exact ⟨_, hactive, .refl _, rfl⟩

theorem not_retains_of_none (hnone : Table.get? lost.feed h.registry.slots = none) :
    ¬h.Retains lost := by
  rintro ⟨slot, hslot, -⟩
  simp [hnone] at hslot

/-- What is retained is what a recovery would make again. -/
theorem Retains.replayable (hret : h.Retains lost) :
    ∃ sub, h.registry.replayable? lost.feed = some sub ∧ Repeats sub.request lost.request ∧
      sub.callback = lost.callback := by
  obtain ⟨slot, hslot, hslotRet⟩ := hret
  cases slot with
  | active sub => exact ⟨sub, by rw [Registry.replayable?, hslot]; rfl, hslotRet⟩
  | reserved request callback previous =>
    obtain ⟨hprevious, hsame⟩ := hslotRet
    obtain ⟨id, rfl⟩ := Option.isSome_iff_exists.mp hprevious
    exact ⟨⟨lost.feed, request, callback, id⟩, by rw [Registry.replayable?, hslot]; rfl, hsame⟩

/-- **The steps that end how a feed is held.** The handler is closed, the end is excused, or a
connection has refused the replay. -/
theorem Retains.step_iff (hret : h.Retains lost) (s : Settings) (now : Duration) (hc : h.Coherent)
    (event : Event) :
    (h.step s now event).1.Retains lost ↔
      h.effect s now event ≠ .close ∧ ¬(h.effect s now event).Excuses h now lost.feed ∧
        ¬(h.effect s now event).Refuses h lost.feed := by
  have hbecomes := hc.becomes s now event lost.feed
  obtain ⟨sub, hsub, hsame⟩ := hret.replayable
  obtain ⟨slot, hslot, hslotRet⟩ := hret
  rw [hslot] at hbecomes
  have hgone : Table.get? lost.feed (h.step s now event).1.registry.slots = none →
      ¬(h.step s now event).1.Retains lost := not_retains_of_none
  unfold Retains at hgone ⊢
  generalize h.effect s now event = effect at hbecomes ⊢
  generalize Table.get? lost.feed (h.step s now event).1.registry.slots = after at hbecomes hgone ⊢
  cases hbecomes with
  | kept huntouched =>
    exact iff_of_true ⟨slot, rfl, hslotRet⟩ (not_ended_of_untouched huntouched)
  | unregistered => exact iff_of_false (hgone rfl) fun hkept => hkept.2.1 rfl
  | withdrawn =>
    have hreplay := hslotRet.1
    contradiction
  | @acknowledged _ _ _ x =>
    exact iff_of_true ⟨_, rfl, hslotRet.2⟩ ⟨by simp, fun hexcuse => hexcuse.2 x rfl, id⟩
  | denied hdenial =>
    refine iff_of_false (hgone rfl) fun hkept => hkept.2.1 ⟨?_, hdenial⟩
    exact hc.tables.registry.token_of_slot hslot
  | expired hexpired => exact iff_of_false (hgone rfl) fun hkept => hkept.2.1 hexpired
  | closed => exact iff_of_false (hgone rfl) fun hkept => hkept.1 rfl
  | dropped hnothing => simp [hsub] at hnothing
  | @replayed _ _ _ lost' n hlost htaken =>
    obtain rfl : sub = lost' := Option.some.inj (hsub.symm.trans hlost)
    refine iff_of_true ⟨_, rfl, rfl, (repeats_withFreshId n).mpr hsame.1, hsame.2⟩
      ⟨by simp, id, ?_⟩
    simp [Effect.Refuses, htaken]
  | refused hrefused => exact iff_of_false (hgone rfl) fun hkept => hkept.2.2 hrefused

/-! ### A run -/

/-- What is retained stays so, moment by moment, unless a connection refuses it. -/
theorem Retains.iff_never_refused (hr : Reachable s h) (hret : h.Retains lost)
    (events : List (Duration × Event))
    (hexcuse : ∀ m ∈ moments s h events, ¬m.Excuses s lost.feed)
    (hlive : ∀ m ∈ moments s h events, (m.after s).state.isTerminal = false) :
    (∀ m ∈ moments s h events, (m.after s).Retains lost) ↔
      ∀ m ∈ moments s h events, ¬m.Refuses s lost.feed := by
  induction events generalizing h with
  | nil => simp
  | cons e rest ih =>
    rw [moments, List.forall_mem_cons] at hexcuse hlive
    have hopen : h.effect s e.1 e.2 ≠ .close := by
      intro hclose
      have hstate : (h.step s e.1 e.2).1.state.isTerminal = false := hlive.1
      rw [state_of_close hclose] at hstate
      contradiction
    have hstep : (h.step s e.1 e.2).1.Retains lost ↔
        ¬(h.effect s e.1 e.2).Refuses h lost.feed := by
      rw [hret.step_iff s e.1 hr.coherent e.2]
      exact ⟨fun hkept => hkept.2.2, fun hkept => ⟨hopen, hexcuse.1, hkept⟩⟩
    have hrest := fun hret' => ih (hr.step e.1 e.2) hret' hexcuse.2 hlive.2
    rw [moments, List.forall_mem_cons, List.forall_mem_cons]
    constructor
    · rintro ⟨hret', hall⟩
      exact ⟨hstep.mp hret', (hrest hret').mp hall⟩
    · rintro ⟨hfirst, hnone⟩
      exact ⟨hstep.mpr hfirst, (hrest (hstep.mpr hfirst)).mpr hnone⟩

/-- **A subscription is held as long as no connection refuses it.** Take a feed that is active, when
its connection is lost or at any other moment, and a run from there on in which the handler neither
fails nor is closed, and in which the feed is not given up, its replays are not answered with
anything but a string, and none of them expires. After every moment of the run the feed is active or
reserved for a replay, by a request with the same method and parameters and with the same callback,
if and only if no connection has refused the request for it as it was attached. -/
theorem retained_iff_never_refused (hr : Reachable s h) {f : Feed}
    (hactive : Table.get? f h.registry.slots = some (.active lost))
    (events : List (Duration × Event)) :
    let ms := moments s h events
    (∀ m ∈ ms, ¬m.Excuses s f) → (∀ m ∈ ms, (m.after s).state.isTerminal = false) →
    ((∀ m ∈ ms, (m.after s).Retains lost) ↔ ∀ m ∈ ms, ¬m.Refuses s f) := by
  intro ms hexcuse hlive
  have hregistry := hr.coherent.tables.registry
  have hfeed := hregistry.feed_of_active hactive
  subst hfeed
  exact (retains_of_active hregistry hactive).iff_never_refused hr events hexcuse hlive

/-! ### Two losses in a row -/

/-- A lost connection ends nothing, and no connection refuses anything then. -/
theorem effect_lost (s : Settings) (now : Duration) (h : Handler) (link : LinkId)
    (e : TransportError) (f : Feed) :
    ¬(h.effect s now (.lost link e)).Excuses h now f ∧
      ¬(h.effect s now (.lost link e)).Refuses h f := by
  have hcause := causes_effect s now h (.lost link e)
  generalize h.effect s now (.lost link e) = effect at hcause
  cases hcause with
  | nothing | lose => exact ⟨id, id⟩
  | refuse hcaller | unregister hcaller | withdraw hcaller => contradiction

/-- A dial ends nothing, and a connection that takes every request refuses none. -/
theorem effect_dialed (s : Settings) (now : Duration) (h : Handler)
    (result : Except TransportError LinkId) (failures : List (Option TransportError)) (f : Feed) :
    ¬(h.effect s now (.dialed result failures)).Excuses h now f ∧
      (failures = [] → ¬(h.effect s now (.dialed result failures)).Refuses h f) := by
  have hcause := causes_effect s now h (.dialed result failures)
  generalize h.effect s now (.dialed result failures) = effect at hcause
  cases hcause with
  | nothing => exact ⟨id, fun _ => id⟩
  | attach =>
    refine ⟨id, ?_⟩
    rintro rfl
    simp [Effect.Refuses, answerTo_nil]
  | refuse hcaller | unregister hcaller | withdraw hcaller => contradiction

/-- A handler after its first subscription. -/
def subscribed : Handler := (initial ⟨0⟩).after .standard firstSubscription

/-- The subscription that it holds. -/
def subscription : Subscription := ⟨.newTxs, .subscribe 1 .newTxs .null, ⟨"f"⟩, ⟨"x"⟩⟩

theorem active_subscribed :
    Table.get? subscription.feed subscribed.registry.slots = some (.active subscription) := by cbv

/-- A replay that was written is carried over: the second connection is lost before it has
acknowledged the feed, and the third is asked for it again. -/
theorem retained_through_two_losses :
    Table.get? subscription.feed subscribed.registry.slots = some (.active subscription) ∧
      ∀ m ∈ moments .standard subscribed [(.zero, .lost ⟨0⟩ .closed),
          (.zero, .dialed (.ok ⟨1⟩) []), (.zero, .lost ⟨1⟩ .closed),
          (.zero, .dialed (.ok ⟨2⟩) [])],
        (m.after .standard).Retains subscription := by
  refine ⟨active_subscribed, (retained_iff_never_refused ((Reachable.initial ⟨0⟩).after _)
    active_subscribed _ ?_ ?_).mpr ?_⟩
  · simp only [moments, List.forall_mem_cons]
    exact ⟨(effect_lost ..).1, (effect_dialed ..).1, (effect_lost ..).1, (effect_dialed ..).1,
      by simp⟩
  · simp only [moments, List.forall_mem_cons]
    refine ⟨?_, ?_, ?_, ?_, by simp⟩ <;> decide +kernel
  · simp only [moments, List.forall_mem_cons]
    exact ⟨(effect_lost ..).2, (effect_dialed ..).2 rfl, (effect_lost ..).2,
      (effect_dialed ..).2 rfl, by simp⟩

/-- A replay that could not be written is not carried over: the second connection breaks before it
takes the request for the feed, and nothing holds the feed from there on, not even on the third. -/
theorem refused_replay_is_forgotten :
    let ms := moments .standard subscribed [(.zero, .lost ⟨0⟩ .closed),
      (.zero, .dialed (.ok ⟨1⟩) [some .closed]), (.zero, .lost ⟨1⟩ .closed),
      (.zero, .dialed (.ok ⟨2⟩) [])]
    Table.get? subscription.feed subscribed.registry.slots = some (.active subscription) ∧
      (∀ m ∈ ms, ¬m.Excuses .standard subscription.feed) ∧
      (∀ m ∈ ms, (m.after .standard).state.isTerminal = false) ∧
      ∀ m ∈ ms.tail, ¬(m.after .standard).Retains subscription := by
  simp only [moments, List.tail_cons, List.forall_mem_cons]
  refine ⟨active_subscribed, ⟨?_, ?_, ?_, ?_, by simp⟩, ⟨?_, ?_, ?_, ?_, by simp⟩,
    ⟨not_retains_of_none ?_, not_retains_of_none ?_, not_retains_of_none ?_, by simp⟩⟩
  · exact (effect_lost ..).1
  · exact (effect_dialed ..).1
  · exact (effect_lost ..).1
  · exact (effect_dialed ..).1
  all_goals decide +kernel

end Handler

end FeedLink.Socket
