import FeedLink.Proofs.Socket.Delivery
import FeedLink.Proofs.Socket.Indices

/-!
# Ids that the server gives out twice

Ids are chosen by the server, and a registry takes them as they come. The index from ids to feeds
has one entry for an id, so that a feed that is acknowledged with the id of another takes its route
away: the other feed stays active, and its pushes go to the wrong callback. When the second feed is
given up, the entry goes with it, and the pushes go nowhere.

Nothing else takes a route away. The three results here say so exactly: for one frame, for giving up
one feed, and for a whole run. How many ids route to a feed tells how many feeds are active exactly
where every active feed has its route.

## Main definitions

* `Registry.Routes` — a push for a feed calls the callback of its own subscription
* `Registry.activeFeeds` — the feeds that are active
* `Handler.Reassigns` — a frame gives the id to another feed

## Main results

* `Handler.routes_handleText_iff`, `Registry.Coherent.routes_unregister_iff` — what takes a route
  away
* `Registry.Coherent.activeCount_eq_iff` — when the count is right
* `Handler.assignsApart_iff_routable` — a run on which no feed loses its route
* `Handler.routed_unless_reassigned`
-/

namespace FeedLink.Socket

open Json

/-- Is it a subscription that the server acknowledged? -/
def Slot.isActive : Slot → Bool
  | .active _ => true
  | .reserved .. => false

namespace Registry

variable {r : Registry} {f g : Feed} {sub : Subscription} {x : SubscriptionId}

/-- A push for the feed calls the callback of its own subscription. -/
def Routes (r : Registry) (f : Feed) (sub : Subscription) : Prop :=
  r.route sub.id = some (f, sub.callback)

/-- The feeds that are active. -/
def activeFeeds (r : Registry) : List Feed := (r.slots.filter (·.2.isActive)).map Prod.fst

theorem Coherent.mem_activeFeeds (hr : r.Coherent) :
    f ∈ r.activeFeeds ↔ ∃ sub, Table.get? f r.slots = some (.active sub) := by
  simp only [activeFeeds, List.mem_map, List.mem_filter]
  constructor
  · rintro ⟨⟨f, slot⟩, ⟨hmem, hactive⟩, rfl⟩
    cases slot with
    | active sub => exact ⟨sub, (Table.mem_iff_get? hr.distinct).mp hmem⟩
    | reserved => contradiction
  · rintro ⟨sub, hslot⟩
    exact ⟨(f, .active sub), ⟨Table.mem_of_get? hslot, rfl⟩, rfl⟩

theorem Coherent.nodup_activeFeeds (hr : r.Coherent) : r.activeFeeds.Nodup :=
  hr.distinct.sublist (List.filter_sublist.map _)

/-! ### What takes a route away -/

/-- An active subscription has its route as long as its id leads to its feed. -/
theorem Coherent.routes_iff (hr : r.Coherent) (hslot : Table.get? f r.slots = some (.active sub)) :
    r.Routes f sub ↔ Table.get? sub.id r.byId = some f := by
  unfold Routes route
  constructor
  · intro hroute
    split at hroute
    · contradiction
    · next g hid =>
      obtain ⟨other, hother, -⟩ := hr.slot_of_id hid
      rw [hother] at hroute
      obtain ⟨rfl, -⟩ := Prod.mk.inj (Option.some.inj hroute)
      rw [hid, hr.feed_of_active hother]
  · intro hid
    simp only [hid, hslot, hr.feed_of_active hslot]

theorem Coherent.routable_iff (hr : r.Coherent) :
    r.Routable ↔ ∀ f sub, Table.get? f r.slots = some (.active sub) → r.Routes f sub :=
  ⟨fun h f sub hslot => (hr.routes_iff hslot).mpr (h f sub hslot),
    fun h f sub hslot => (hr.routes_iff hslot).mp (h f sub hslot)⟩

/-- Confirming leaves an active subscription alone, and takes its route away exactly if it gives its
id to the feed that is reserved. -/
theorem Coherent.routes_confirm_iff (hr : r.Coherent)
    (hslot : Table.get? f r.slots = some (.active sub)) (token : String) (x : SubscriptionId) :
    Table.get? f (r.confirm token x).2.slots = some (.active sub) ∧
      ((r.confirm token x).2.Routes f sub ↔
        r.Routes f sub ∧ ¬(x = sub.id ∧ r.isReserved token = true)) := by
  cases htoken : Table.get? token r.byToken with
  | none => simp [confirm_of_none htoken, hslot, isReserved, Table.has_eq_false_iff.mpr htoken]
  | some g =>
    obtain ⟨request, callback, previous, hreserved, rfl⟩ := hr.slot_of_token htoken
    have hgf : g ≠ f := by
      rintro rfl
      simp [hslot] at hreserved
    have hafter : Table.get? f (r.confirm request.id.key x).2.slots = some (.active sub) :=
      (hr.get?_slots_confirm_of_ne (by simp [htoken, hgf]) x).trans hslot
    refine ⟨hafter, ?_⟩
    rw [(hr.confirm _ x).routes_iff hafter, hr.routes_iff hslot, hr.confirm_eq hreserved,
      Table.get?_set]
    by_cases hx : x = sub.id <;> simp [hx, hgf, isReserved, Table.has, htoken]

/-- Releasing leaves an active subscription and its route alone. -/
theorem Coherent.routes_release_iff (hr : r.Coherent)
    (hslot : Table.get? f r.slots = some (.active sub)) (token : String) :
    Table.get? f (r.release token).2.slots = some (.active sub) ∧
      ((r.release token).2.Routes f sub ↔ r.Routes f sub) := by
  have hafter := hr.active_release hslot token
  rw [(hr.release token).routes_iff hafter, hr.routes_iff hslot, byId_release]
  exact ⟨hafter, Iff.rfl⟩

/-- **Giving up another feed takes a route away exactly if the other feed is active under the same
id.** -/
theorem Coherent.routes_unregister_iff (hr : r.Coherent)
    (hslot : Table.get? f r.slots = some (.active sub)) (hgf : g ≠ f) :
    Table.get? f (r.unregister g).2.slots = some (.active sub) ∧
      ((r.unregister g).2.Routes f sub ↔ r.Routes f sub ∧
        ¬∃ other, Table.get? g r.slots = some (.active other) ∧ other.id = sub.id) := by
  have hafter : Table.get? f (r.unregister g).2.slots = some (.active sub) :=
    (slots_unregister_of_ne hgf).trans hslot
  refine ⟨hafter, ?_⟩
  rw [(hr.unregister g).routes_iff hafter, hr.routes_iff hslot]
  cases hother : Table.get? g r.slots with
  | none => simp [Registry.unregister, hother]
  | some slot =>
    cases slot with
    | reserved => simp [Registry.unregister, hother]
    | active other =>
      rw [unregister_of_active hother, Table.get?_erase]
      by_cases hid : other.id = sub.id <;> simp [hid]

/-! ### How many feeds are active -/

/-- The feeds to which ids lead are active, and no two ids lead to one feed. -/
theorem Coherent.subperm_activeFeeds (hr : r.Coherent) (hids : Table.Distinct r.byId) :
    (r.byId.map Prod.snd).Subperm r.activeFeeds := by
  refine List.Nodup.subperm ?_ fun f hf => ?_
  · refine List.Nodup.map_on ?_ (List.Nodup.of_map Prod.fst hids)
    rintro ⟨x, f⟩ hx ⟨y, g⟩ hy heq
    obtain rfl : f = g := heq
    obtain ⟨sub, hslot, rfl⟩ := hr.slot_of_id ((Table.mem_iff_get? hids).mp hx)
    obtain ⟨other, hother, rfl⟩ := hr.slot_of_id ((Table.mem_iff_get? hids).mp hy)
    obtain rfl := Slot.active.inj (Option.some.inj (hslot.symm.trans hother))
    rfl
  · obtain ⟨⟨x, g⟩, hx, rfl⟩ := List.mem_map.mp hf
    obtain ⟨sub, hslot, -⟩ := hr.slot_of_id ((Table.mem_iff_get? hids).mp hx)
    exact hr.mem_activeFeeds.mpr ⟨sub, hslot⟩

/-- **The count of the ids is the count of the active feeds exactly where every active feed has its
route**; otherwise it is too low. -/
theorem Coherent.activeCount_eq_iff (hr : r.Coherent) (hids : Table.Distinct r.byId) :
    r.activeCount ≤ r.activeFeeds.length ∧
      (r.activeCount = r.activeFeeds.length ↔ r.Routable) := by
  have hsub := hr.subperm_activeFeeds hids
  have hlength : (r.byId.map Prod.snd).length = r.activeCount := List.length_map ..
  refine ⟨hlength ▸ hsub.length_le, fun hcount f sub hslot => ?_, fun hroutable => ?_⟩
  · have hperm := hsub.perm_of_length_le (by omega)
    have hmem : f ∈ r.byId.map Prod.snd := hperm.mem_iff.mpr (hr.mem_activeFeeds.mpr ⟨sub, hslot⟩)
    obtain ⟨⟨x, g⟩, hx, rfl⟩ := List.mem_map.mp hmem
    -- the id that leads to the feed is its own
    have hid := (Table.mem_iff_get? hids).mp hx
    obtain ⟨other, hother, rfl⟩ := hr.slot_of_id hid
    obtain rfl := Slot.active.inj (Option.some.inj (hslot.symm.trans hother))
    exact hid
  · have hle : r.activeFeeds.Subperm (r.byId.map Prod.snd) := by
      refine hr.nodup_activeFeeds.subperm fun f hf => ?_
      obtain ⟨sub, hslot⟩ := hr.mem_activeFeeds.mp hf
      exact List.mem_map.mpr ⟨_, Table.mem_of_get? (hroutable f sub hslot), rfl⟩
    exact hlength ▸ Nat.le_antisymm hsub.length_le hle.length_le

/-! ### No id leads to two feeds -/

theorem distinct_byId_confirm (hids : Table.Distinct r.byId) (token : String)
    (x : SubscriptionId) : Table.Distinct (r.confirm token x).2.byId := by
  unfold confirm
  split
  · exact hids
  · split
    · exact Table.distinct_set hids _ _
    · exact hids

theorem distinct_byId_unregister (hids : Table.Distinct r.byId) (f : Feed) :
    Table.Distinct (r.unregister f).2.byId := by
  unfold unregister
  split
  · exact Table.distinct_erase hids _
  · exact hids

end Registry

namespace Handler

variable {h : Handler} {s : Settings} {now : Duration} {f g : Feed} {sub : Subscription}

/-- The ids of a registry stay distinct along a step. -/
theorem Coherent.distinct_byId_step (hc : h.Coherent) (hids : Table.Distinct h.registry.byId)
    (event : Event) : Table.Distinct (h.step s now event).1.registry.byId := by
  have hcause := causes_effect s now h event
  rw [registry_step s now hc event]
  generalize h.effect s now event = effect at hcause
  cases hcause with
  | nothing | refuse | register | reserve | lose => exact hids
  | unregister => exact Registry.distinct_byId_unregister hids _
  | withdraw => rwa [perform, Registry.byId_release]
  | reply =>
    rw [perform, registry_handleReply]
    split
    · exact Registry.distinct_byId_confirm hids _ _
    · rwa [Registry.byId_release]
  | close => exact Table.distinct_nil
  | @attach link failures _ hdialing =>
    have hredial := Reader.isRedialing_of_dialing hdialing
    rw [perform, (hc.replaying_reserved s now hredial link failures).1]
    exact Table.distinct_nil
  | settle =>
    refine settleReplays_invariant (P := fun k => Table.Distinct k.registry.byId) ?_ hids
    intro k p _ hk
    rwa [withdraw, Registry.byId_release]

theorem Reachable.distinct_byId (hr : Reachable s h) : Table.Distinct h.registry.byId := by
  induction hr with
  | initial link => exact Table.distinct_nil
  | step now event hr ih => exact hr.coherent.distinct_byId_step ih event

/-! ### One frame -/

/-- The frame acknowledges a feed that is reserved, and gives it the id. -/
def Reassigns (h : Handler) (x : SubscriptionId) (text : String) : Prop :=
  ∃ key, Inbound.parse text = .ok (.reply key (.ok (.str x.text))) ∧
    h.registry.isReserved key = true

/-- What a frame does to the registry: nothing, unless it is a reply. -/
theorem registry_handleText (s : Settings) (h : Handler) (text : String) :
    (h.handleText s text).1.registry = match Inbound.parse text with
      | .ok (.reply key outcome) => (h.handleReply key outcome).registry
      | _ => h.registry := by
  unfold handleText
  cases Inbound.parse text with
  | error => rfl
  | ok frame =>
    cases frame with
    | reply | other => rfl
    | push id payload => dsimp only; split <;> rfl

/-- **A frame takes a route away exactly if it gives the id to another feed.** -/
theorem routes_handleText_iff (hr : h.registry.Coherent)
    (hslot : Table.get? f h.registry.slots = some (.active sub)) (text : String) :
    Table.get? f (h.handleText s text).1.registry.slots = some (.active sub) ∧
      ((h.handleText s text).1.registry.Routes f sub ↔
        h.registry.Routes f sub ∧ ¬h.Reassigns sub.id text) := by
  rw [registry_handleText]
  unfold Reassigns
  split
  · next key outcome hparse =>
    rw [registry_handleReply]
    split
    · next y =>
      obtain ⟨hafter, hroutes⟩ := hr.routes_confirm_iff hslot key ⟨y⟩
      refine ⟨hafter, hroutes.trans (and_congr_right fun _ => not_congr ?_)⟩
      constructor
      · rintro ⟨heq, hreserved⟩
        exact ⟨key, by rw [hparse, ← heq], hreserved⟩
      · rintro ⟨key', hparse', hreserved⟩
        obtain ⟨rfl, houtcome⟩ := Inbound.reply.inj (Except.ok.inj (hparse.symm.trans hparse'))
        exact ⟨congrArg _ (Value.str.inj (Except.ok.inj houtcome)), hreserved⟩
    · next hdenial =>
      obtain ⟨hafter, hroutes⟩ := hr.routes_release_iff hslot key
      refine ⟨hafter, hroutes.trans (iff_self_and.mpr ?_)⟩
      rintro - ⟨key', hparse', -⟩
      exact hdenial _ (Inbound.reply.inj (Except.ok.inj (hparse.symm.trans hparse'))).2
  · next hreply =>
    refine ⟨hslot, iff_self_and.mpr ?_⟩
    rintro - ⟨key, hparse, -⟩
    exact hreply _ _ hparse

/-! ### A whole run -/

/-- An acknowledgement takes no other feed out, so that two feeds are active under one id if it
gives an id that is in use. -/
theorem not_routable_of_reassigned {m : Moment} (hc : m.before.Coherent) {x : SubscriptionId}
    (hack : m.Acknowledges s f x) (hactive : m.before.Active g x) :
    ¬(m.after s).registry.Routable := by
  intro hroutable
  obtain ⟨key, heff, htoken⟩ := id hack
  have hkept : ¬m.Unassigns s g := by
    rintro (h | h | ⟨_, _, h⟩) <;> simp [heff] at h
  obtain ⟨sub, hsub, hid⟩ := (active_after_iff hc).mpr (.inl hack)
  obtain ⟨other, hother, hid'⟩ := (active_after_iff hc).mpr (.inr ⟨hactive, hkept⟩)
  -- one id leads to one feed, but the one was reserved and the other active
  have hfound := hroutable f sub hsub
  rw [hid, ← hid', hroutable g other hother] at hfound
  obtain rfl := Option.some.inj hfound
  obtain ⟨_, _, _, hreserved, -⟩ := hc.tables.registry.slot_of_token htoken
  obtain ⟨_, hslot, -⟩ := hactive
  simp [hreserved] at hslot

/-- **No feed loses its route along a run exactly if the server assigns no id that is in use.** -/
theorem assignsApart_iff_routable (s : Settings) (link : LinkId)
    (events : List (Duration × Event)) :
    AssignsApart s (moments s (initial link) events) ↔
      ∀ pre, pre <+: events → ((initial link).after s pre).registry.Routable := by
  constructor
  · rintro hserver pre ⟨rest, rfl⟩
    rw [moments_append] at hserver
    exact routable_after s link pre hserver.of_append
  · intro hroutable
    induction events using List.reverseRecOn with
    | nil => simp [AssignsApart]
    | append_singleton events e ih =>
      rw [moments_concat, assignsApart_concat]
      refine ⟨ih fun pre hpre => hroutable pre (hpre.trans (List.prefix_append ..)), ?_⟩
      intro f x hack g hassigned
      have hc := ((Reachable.initial (s := s) link).after events).coherent
      refine not_routable_of_reassigned hc hack ((assigned_iff s link events g x).mp hassigned) ?_
      have hafter := hroutable _ (List.prefix_refl _)
      rwa [after_concat] at hafter

/-- **A feed keeps its route unless its id is given to another.** After any run, take a feed that is
active. Whatever the frame that comes next, the feed stays active, and its pushes still reach its
own callback unless the frame gives its id to another feed. Giving up another feed leaves it active,
and leaves it its route unless the other feed is active under the same id. The count of the active
feeds is right exactly when each of them has its route, and too low otherwise. And along the whole
run every active feed has its route exactly if the server never assigns an id that is in use. -/
theorem routed_unless_reassigned (s : Settings) (link : LinkId)
    (events : List (Duration × Event)) :
    let h := (initial link).after s events
    (∀ f sub, Table.get? f h.registry.slots = some (.active sub) →
      (∀ text, Table.get? f (h.handleText s text).1.registry.slots = some (.active sub) ∧
        ((h.handleText s text).1.registry.route sub.id = some (f, sub.callback) ↔
          h.registry.route sub.id = some (f, sub.callback) ∧ ¬h.Reassigns sub.id text)) ∧
      ∀ g, g ≠ f →
        Table.get? f (h.registry.unregister g).2.slots = some (.active sub) ∧
        ((h.registry.unregister g).2.route sub.id = some (f, sub.callback) ↔
          h.registry.route sub.id = some (f, sub.callback) ∧ ¬h.Active g sub.id)) ∧
    h.registry.activeCount ≤ h.registry.activeFeeds.length ∧
    (h.registry.activeCount = h.registry.activeFeeds.length ↔
      ∀ f sub, Table.get? f h.registry.slots = some (.active sub) →
        h.registry.route sub.id = some (f, sub.callback)) ∧
    (AssignsApart s (moments s (initial link) events) ↔
      ∀ pre, pre <+: events →
        ∀ f sub, Table.get? f ((initial link).after s pre).registry.slots = some (.active sub) →
          ((initial link).after s pre).registry.route sub.id = some (f, sub.callback)) := by
  intro h
  have hreach : Reachable s h := (Reachable.initial link).after events
  have hr := hreach.coherent.tables.registry
  obtain ⟨hle, hcount⟩ := hr.activeCount_eq_iff hreach.distinct_byId
  refine ⟨fun f sub hslot => ⟨fun text => routes_handleText_iff hr hslot text,
    fun g hgf => hr.routes_unregister_iff hslot hgf⟩, hle, hcount.trans hr.routable_iff, ?_⟩
  refine (assignsApart_iff_routable s link events).trans (forall₂_congr fun pre _ => ?_)
  exact ((Reachable.initial (s := s) link).after pre).coherent.tables.registry.routable_iff

/-- While the first subscription is active, a caller subscribes to another feed. -/
def secondSubscription : List (Duration × Event) :=
  firstSubscription ++ [(.zero, .subscribe ⟨"b"⟩ .newBlocks .null ⟨"g"⟩ none)]

/-- The server acknowledges the second subscription under the id of the first: the pushes for the
first go to the callback of the second, one of two active feeds is counted, and when the second is
given up the pushes for the first go nowhere. -/
theorem second_takes_route_of_first :
    let h := (initial ⟨0⟩).after .standard secondSubscription
    let text := "\x7b\"id\":\"2\",\"result\":\"x\"\x7d"
    let r := (h.handleText .standard text).1.registry
    let first : Slot := .active ⟨.newTxs, .subscribe 1 .newTxs .null, ⟨"f"⟩, ⟨"x"⟩⟩
    Reachable .standard h ∧ h.link = some ⟨0⟩ ∧
      Table.get? .newTxs h.registry.slots = some first ∧
      h.registry.route ⟨"x"⟩ = some (.newTxs, ⟨"f"⟩) ∧
      Table.get? .newTxs r.slots = some first ∧ r.route ⟨"x"⟩ = some (.newBlocks, ⟨"g"⟩) ∧
      r.activeCount = 1 ∧ r.activeFeeds = [.newBlocks, .newTxs] ∧
      Table.get? .newTxs (r.unregister .newBlocks).2.slots = some first ∧
      (r.unregister .newBlocks).2.route ⟨"x"⟩ = none := by
  refine ⟨(Reachable.initial ⟨0⟩).after _, ?_, ?_, ?_, ?_, ?_, ?_, ?_, ?_, ?_⟩ <;> cbv

end Handler

end FeedLink.Socket
