import FeedLink.Proofs.Socket.Replay

/-!
# What a step makes of a feed

A feed is free, reserved or active, and each effect does one thing to it or leaves it alone.
`Becomes` lists these things with what the feed was before and what it is then; every statement
about how a feed is held along a run is proved by going through this list.

## Main definitions

* `Effect.Touches` — an effect may change how a feed is held
* `Becomes` — what an effect makes of a feed

## Main results

* `Handler.Coherent.becomes` — a step makes of a feed what its effect makes of it
-/

namespace FeedLink.Socket

open Json

/-- The effect may change how the feed is held. -/
def Effect.Touches (h : Handler) (now : Duration) (f : Feed) : Effect → Prop
  | .reserve g _ _ | .unregister g => g = f
  | .withdraw key | .reply key _ => Table.get? key h.registry.byToken = some f
  | .settle replays => ∃ p ∈ replays, p.feed = f ∧ h.Expired now p
  | .close | .attach .. => True
  | .nothing | .refuse _ | .register _ | .lose => False

/-- What an effect makes of the slot of a feed. -/
inductive Becomes (h : Handler) (now : Duration) (f : Feed) :
    Effect → Option Slot → Option Slot → Prop
  | kept {effect : Effect} {slot : Option Slot} (untouched : ¬effect.Touches h now f) :
      Becomes h now f effect slot slot
  | reserved {params : Value} {callback : Callback} :
      Becomes h now f (.reserve f params callback) none
        (some (.reserved (.subscribe h.nextId f params) callback none))
  | unregistered {sub : Subscription} : Becomes h now f (.unregister f) (some (.active sub)) none
  /-- The call ends that has reserved the feed. -/
  | withdrawn {request : Request} {callback : Callback} :
      Becomes h now f (.withdraw request.id.key) (some (.reserved request callback none)) none
  | acknowledged {request : Request} {callback : Callback} {previous : Option SubscriptionId}
      {x : String} :
      Becomes h now f (.reply request.id.key (.ok (.str x)))
        (some (.reserved request callback previous)) (some (.active ⟨f, request, callback, ⟨x⟩⟩))
  | denied {request : Request} {callback : Callback} {previous : Option SubscriptionId}
      {outcome : Outcome} (denial : ∀ x, outcome ≠ .ok (.str x)) :
      Becomes h now f (.reply request.id.key outcome)
        (some (.reserved request callback previous)) none
  | expired {replays : List Replay} {request : Request} {callback : Callback}
      {id : SubscriptionId} (expired : ∃ p ∈ replays, p.feed = f ∧ h.Expired now p) :
      Becomes h now f (.settle replays) (some (.reserved request callback (some id))) none
  | closed {slot : Option Slot} : Becomes h now f .close slot none
  /-- There was nothing to make again, on a new connection. -/
  | dropped {link : LinkId} {failures : List (Option TransportError)} {slot : Option Slot}
      (nothing : h.registry.replayable? f = none) :
      Becomes h now f (.attach link failures) slot none
  | replayed {link : LinkId} {failures : List (Option TransportError)} {slot : Option Slot}
      {lost : Subscription} {n : Nat} (replayable : h.registry.replayable? f = some lost)
      (taken : (answerTo f h.registry.replayables failures).isSome = false) :
      Becomes h now f (.attach link failures) slot
        (some (.reserved (lost.request.withFreshId n) lost.callback (some lost.id)))
  | refused {link : LinkId} {failures : List (Option TransportError)} {slot : Option Slot}
      (refused : (answerTo f h.registry.replayables failures).isSome = true) :
      Becomes h now f (.attach link failures) slot none

namespace Handler

variable {h : Handler} {f : Feed}

/-- What is to be made again for a feed is what holds it. -/
theorem slot_of_replayable {lost : Subscription}
    (hlost : h.registry.replayable? f = some lost) :
    Table.get? f h.registry.slots = some (.active lost) ∨
      Table.get? f h.registry.slots =
        some (.reserved lost.request lost.callback (some lost.id)) := by
  obtain ⟨slot, hslot, hreplayable⟩ := Option.bind_eq_some_iff.mp hlost
  cases slot with
  | active sub =>
    obtain rfl : sub = lost := Option.some.inj hreplayable
    exact .inl hslot
  | reserved request callback previous =>
    cases previous with
    | none => contradiction
    | some id =>
      obtain rfl : ⟨f, request, callback, id⟩ = lost := Option.some.inj hreplayable
      exact .inr hslot

/-- **A step makes of a feed what its effect makes of it.** -/
theorem Coherent.becomes (hc : h.Coherent) (s : Settings) (now : Duration) (event : Event)
    (f : Feed) :
    Becomes h now f (h.effect s now event) (Table.get? f h.registry.slots)
      (Table.get? f (h.step s now event).1.registry.slots) := by
  have hregistry := hc.tables.registry
  have hcause := causes_effect s now h event
  rw [registry_step s now hc event]
  generalize h.effect s now event = effect at hcause
  cases hcause with
  | nothing | refuse | register | lose => exact .kept id
  | @reserve _ feed params callback _ _ _ hfree =>
    simp only [perform, Table.get?_set]
    split
    · next heq =>
      obtain rfl := heq
      rw [hfree]
      exact .reserved
    · next hne => exact .kept hne
  | @unregister _ _ feed sub _ _ _ hactive =>
    simp only [perform, Registry.unregister_of_active hactive, Table.get?_erase]
    split
    · next heq =>
      obtain rfl := heq
      rw [hactive]
      exact .unregistered
    · next hne => exact .kept hne
  | @withdraw _ _ c w _ hcall hw =>
    simp only [perform, hregistry.get?_slots_release]
    split
    · next htoken =>
      obtain ⟨request, callback, previous, hslot, hkey⟩ := hregistry.slot_of_token htoken
      have hrole := (hc.tables.place (mem_waiters_of_call hcall hw) hslot hkey).2
      obtain rfl : previous = none := by simpa [Call.isReplay_waiter hw] using hrole
      rw [hslot, ← hkey]
      exact .withdrawn
    · next hne => exact .kept hne
  | @reply _ _ key outcome =>
    by_cases htoken : Table.get? key h.registry.byToken = some f
    · obtain ⟨request, callback, previous, hslot, rfl⟩ := hregistry.slot_of_token htoken
      rw [perform, slots_handleReply_self hregistry hslot, hslot]
      split
      · exact .acknowledged
      · next hne => exact .denied fun x heq => hne x heq
    · rw [perform, slots_handleReply_of_ne hregistry htoken]
      exact .kept htoken
  | close => exact .closed
  | @attach link failures _ hdialing =>
    have hredial := Reader.isRedialing_of_dialing hdialing
    obtain ⟨n, hslot⟩ := hc.slots_attach s now hredial link failures f
    rw [perform, hslot]
    cases hlost : h.registry.replayable? f with
    | none => exact .dropped hlost
    | some lost =>
      cases hanswer : (answerTo f h.registry.replayables failures).isSome with
      | true => exact .refused hanswer
      | false => exact .replayed hlost hanswer
  | @settle _ b hb =>
    obtain ⟨hgone, hkept⟩ := hc.slots_settle s now hb f
    by_cases hexpired : ∃ p ∈ b.replays, p.feed = f ∧ h.Expired now p
    · obtain ⟨p, hp, rfl, hout⟩ := hexpired
      have hmem : p.waiter ∈ h.waiters := mem_waiters_of_replay (List.mem_of_find?_eq_some hb) hp
      obtain ⟨request, callback, previous, hslot, hkey⟩ :=
        hregistry.slot_of_token (token_of_expired hc.tables hmem hout)
      have hrole := (hc.tables.place hmem hslot hkey).2
      obtain ⟨id, rfl⟩ : ∃ id, previous = some id := Option.isSome_iff_exists.mp hrole.symm
      rw [perform, hgone ⟨p, hp, rfl, hout⟩, hslot]
      exact .expired ⟨p, hp, rfl, hout⟩
    · rw [perform, hkept hexpired]
      exact .kept hexpired

end Handler

end FeedLink.Socket
