import FeedLink.Proofs.Socket.Effect

/-!
# Ids lead to their subscriptions

`Registry.Coherent` says that an id leads to a subscription that has it, and not that a subscription
is found by its id: a server that gives one id to two feeds leaves the first of them without a
route. `Registry.Routable` is the other direction. It holds along a run in which the server does no
such thing, and there a push goes to the one feed that is active under its id.

## Main definitions

* `Registry.Routable` — every active subscription is found by its id

## Main results

* `Registry.route_eq_some_iff`, `Registry.route_eq_none_iff` — where a push goes
* `Handler.Coherent.routable_step` — a step keeps a registry routable, if it gives out no id twice
-/

namespace FeedLink.Socket

namespace Registry

variable {r r' : Registry} {f g : Feed} {x : SubscriptionId} {callback : Callback}

/-- Every active subscription is found by its id. -/
def Routable (r : Registry) : Prop :=
  ∀ f sub, Table.get? f r.slots = some (.active sub) → Table.get? sub.id r.byId = some f

theorem routable_empty : Routable .empty := by
  intro f sub hslot
  simp [empty] at hslot

/-- A push goes to an active subscription with its id. -/
theorem active_of_route (hr : r.Coherent) (hroute : r.route x = some (f, callback)) :
    ∃ sub, Table.get? f r.slots = some (.active sub) ∧ sub.id = x ∧ sub.callback = callback := by
  unfold route at hroute
  split at hroute
  · contradiction
  · next g hid =>
    obtain ⟨sub, hslot, hsub⟩ := hr.slot_of_id hid
    rw [hslot] at hroute
    obtain ⟨rfl, rfl⟩ := Prod.mk.inj (Option.some.inj hroute)
    exact ⟨sub, (hr.feed_of_active hslot).symm ▸ hslot, hsub, rfl⟩

/-- **Where a push goes.** -/
theorem route_eq_some_iff (hr : r.Coherent) (hroutable : r.Routable) :
    r.route x = some (f, callback) ↔
      ∃ sub, Table.get? f r.slots = some (.active sub) ∧ sub.id = x ∧ sub.callback = callback := by
  refine ⟨active_of_route hr, ?_⟩
  rintro ⟨sub, hslot, rfl, rfl⟩
  rw [route, hroutable f sub hslot]
  simp only [hslot, hr.feed_of_active hslot]

theorem route_eq_none_iff (hr : r.Coherent) (hroutable : r.Routable) :
    r.route x = none ↔ ∀ f sub, Table.get? f r.slots = some (.active sub) → sub.id ≠ x := by
  constructor
  · intro hnone f sub hslot hid
    have hroute := (route_eq_some_iff hr hroutable).mpr ⟨sub, hslot, hid, rfl⟩
    simp [hnone] at hroute
  · intro hnone
    cases hroute : r.route x with
    | none => rfl
    | some target =>
      obtain ⟨sub, hslot, hid, -⟩ := (route_eq_some_iff hr hroutable).mp hroute
      exact absurd hid (hnone _ _ hslot)

/-! ### Each operation -/

/-- A registry stays routable under what adds no subscription and leaves the ids alone. -/
theorem Routable.mono (hroutable : r.Routable) (hids : r'.byId = r.byId)
    (hslots : ∀ {f sub}, Table.get? f r'.slots = some (.active sub) →
      Table.get? f r.slots = some (.active sub)) : r'.Routable := by
  intro f sub hslot
  rw [hids]
  exact hroutable f sub (hslots hslot)

theorem byId_release (r : Registry) (token : String) : (r.release token).2.byId = r.byId := by
  unfold Registry.release
  split <;> rfl

theorem Routable.release (hroutable : r.Routable) (hr : r.Coherent) (token : String) :
    (r.release token).2.Routable := by
  refine hroutable.mono (r.byId_release token) fun hslot => ?_
  rw [hr.get?_slots_release] at hslot
  split at hslot
  · contradiction
  · exact hslot

/-- Giving up a subscription takes away its own id only. -/
theorem Routable.unregister (hroutable : r.Routable) (f : Feed) :
    (r.unregister f).2.Routable := by
  cases hslot : Table.get? f r.slots with
  | none => simpa only [Registry.unregister, hslot] using hroutable
  | some slot =>
    cases slot with
    | reserved => simpa only [Registry.unregister, hslot] using hroutable
    | active sub =>
      rw [unregister_of_active hslot]
      intro g other hother
      rw [Table.get?_erase] at hother
      split at hother
      · contradiction
      · next hfg =>
        have hid := hroutable g other hother
        have hne : sub.id ≠ other.id := by
          intro heq
          rw [← heq, hroutable f sub hslot] at hid
          exact hfg (Option.some.inj hid)
        exact (Table.get?_erase ..).trans ((if_neg hne).trans hid)

/-- Confirming keeps a registry routable, unless the id belongs to an active subscription. -/
theorem Routable.confirm (hroutable : r.Routable) (hr : r.Coherent) {token : String}
    (hfree : ∀ f, Table.get? token r.byToken = some f →
      ∀ g sub, Table.get? g r.slots = some (.active sub) → sub.id ≠ x) :
    (r.confirm token x).2.Routable := by
  cases htoken : Table.get? token r.byToken with
  | none => rwa [confirm_of_none htoken]
  | some f =>
    obtain ⟨request, callback, previous, hslot, rfl⟩ := hr.slot_of_token htoken
    rw [hr.confirm_eq hslot]
    intro g sub hsub
    rw [Table.get?_set] at hsub
    rw [Table.get?_set]
    split at hsub
    · next hfg =>
      obtain rfl := Slot.active.inj (Option.some.inj hsub)
      rw [if_pos rfl, hfg]
    · rw [if_neg (hfree f htoken g sub hsub).symm]
      exact hroutable g sub hsub

end Registry

namespace Handler

variable {h : Handler} {s : Settings} {now : Duration}

/-- **A step keeps a registry routable**, if it gives the id of an active subscription to no other
feed. -/
theorem Coherent.routable_step (hc : h.Coherent) (hroutable : h.registry.Routable) (event : Event)
    (hfree : ∀ key x, h.effect s now event = .reply key (.ok (.str x)) →
      ∀ f, Table.get? key h.registry.byToken = some f →
        ∀ g sub, Table.get? g h.registry.slots = some (.active sub) → sub.id ≠ ⟨x⟩) :
    (h.step s now event).1.registry.Routable := by
  have hregistry := hc.tables.registry
  have hcause := causes_effect s now h event
  rw [registry_step s now hc event]
  generalize h.effect s now event = effect at hcause hfree
  cases hcause with
  | nothing | refuse | register | lose => exact hroutable
  | @reserve _ feed params callback =>
    refine hroutable.mono rfl fun hslot => ?_
    rw [perform, Table.get?_set] at hslot
    split at hslot
    · simp at hslot
    · exact hslot
  | unregister => exact hroutable.unregister _
  | withdraw => exact hroutable.release hregistry _
  | @reply _ _ key outcome =>
    rw [perform, registry_handleReply]
    split
    · next x _ => exact hroutable.confirm hregistry (hfree key x rfl)
    · exact hroutable.release hregistry key
  | close => exact Registry.routable_empty
  | @attach link failures _ hdialing =>
    have hredial := Reader.isRedialing_of_dialing hdialing
    intro f sub hslot
    obtain ⟨_, _, _, hreserved⟩ := (hc.replaying_reserved s now hredial link failures).2 f _ hslot
    contradiction
  | @settle _ b =>
    have hinv : (settleReplays s now h b.replays).1.registry.Coherent ∧
        (settleReplays s now h b.replays).1.registry.Routable := by
      refine settleReplays_invariant
        (P := fun k => k.registry.Coherent ∧ k.registry.Routable) ?_ ⟨hregistry, hroutable⟩
      rintro k p - ⟨hk, hkRoutable⟩
      exact ⟨hk.release _, hkRoutable.release hk _⟩
    exact hinv.2

end Handler

end FeedLink.Socket
