import FeedLink.Proofs.Socket.Moment

/-!
# What never comes back

Keys come from a counter, so that nothing new is ever registered or reserved under a key that was
drawn before. Once a key has left the correlator it stays out, a reservation that is gone does not
come back, and what became of a registration is settled once. `Evolves` says so of two handlers, and
holds from any moment of a run to any later one.

## Main definitions

* `Evolves` — what a run may do to the tables between two handlers
* `Registry.Held` — a slot, or the reservation that may become one

## Main results

* `Handler.Coherent.evolves_step`, `Handler.Reachable.evolves_after`
* `Handler.Coherent.slot_step` — what a slot was before a step
* `Evolves.pending_none`, `Evolves.token_none` — what is gone stays gone
-/

namespace FeedLink.Socket

/-- The request by which a feed is held. -/
def Slot.request : Slot → Request
  | .reserved request _ _ => request
  | .active sub => sub.request

namespace Registry

variable {r r' : Registry} {f : Feed} {slot : Slot}

/-- The slot is in the registry, or is one that a reservation in the registry may become. -/
def Held (r : Registry) (f : Feed) (slot : Slot) : Prop :=
  Table.get? f r.slots = some slot ∨ ∃ request callback previous x,
    Table.get? f r.slots = some (.reserved request callback previous) ∧
      slot = .active ⟨f, request, callback, x⟩

theorem Held.of_get? (h : Table.get? f r.slots = some slot) : r.Held f slot := .inl h

/-- A reservation was a reservation, and the same. -/
theorem Held.reserved {request : Request} {callback : Callback} {previous : Option SubscriptionId}
    (h : r.Held f (.reserved request callback previous)) :
    Table.get? f r.slots = some (.reserved request callback previous) := by
  rcases h with h | ⟨_, _, _, _, -, h⟩
  · exact h
  · contradiction

/-- No slot appears but one that a reservation has become. -/
def Shrinks (r r' : Registry) : Prop :=
  ∀ {f slot}, Table.get? f r'.slots = some slot → r.Held f slot

theorem shrinks_empty (r : Registry) : r.Shrinks .empty := by
  intro f slot h
  simp [empty] at h

theorem Coherent.shrinks_release (hr : r.Coherent) (token : String) :
    r.Shrinks (r.release token).2 := by
  intro f slot h
  rw [hr.get?_slots_release] at h
  split at h
  · contradiction
  · exact .inl h

theorem Coherent.shrinks_confirm (hr : r.Coherent) (token : String) (x : SubscriptionId) :
    r.Shrinks (r.confirm token x).2 := by
  intro f slot h
  by_cases htoken : Table.get? token r.byToken = some f
  · obtain ⟨request, callback, previous, hslot, rfl⟩ := hr.slot_of_token htoken
    rw [hr.get?_slots_confirm_self hslot] at h
    exact .inr ⟨request, callback, previous, x, hslot, (Option.some.inj h).symm⟩
  · rw [hr.get?_slots_confirm_of_ne htoken] at h
    exact .inl h

theorem shrinks_unregister (r : Registry) (f : Feed) : r.Shrinks (r.unregister f).2 :=
  fun h => .inl (get?_slots_of_unregister h)

end Registry

/-- What a run may do to the tables between two handlers. -/
structure Evolves (h h' : Handler) : Prop where
  count : h.nextId ≤ h'.nextId
  /-- What was settled stays settled. -/
  settled : ∀ {ticket v}, h.correlator.settlement? ticket = some v →
    h'.correlator.settlement? ticket = some v
  /-- What is pending was pending, or has a new key. -/
  pending : ∀ {key ticket}, Table.get? key h'.correlator.pending = some ticket →
    Table.get? key h.correlator.pending = some ticket ∨ ¬Issued h.nextId key
  /-- What holds a feed has held it, perhaps as a reservation, or was requested under a new key. -/
  slots : ∀ {f slot}, Table.get? f h'.registry.slots = some slot →
    h.registry.Held f slot ∨ ¬Issued h.nextId slot.request.id.key

namespace Evolves

variable {h h' h'' : Handler}

theorem refl (h : Handler) : Evolves h h := ⟨Nat.le_refl _, id, .inl, fun h => .inl (.inl h)⟩

theorem trans (h₁ : Evolves h h') (h₂ : Evolves h' h'') : Evolves h h'' where
  count := Nat.le_trans h₁.count h₂.count
  settled := fun hs => h₂.settled (h₁.settled hs)
  pending := by
    intro key ticket hp
    rcases h₂.pending hp with hp | hnew
    · exact h₁.pending hp
    · exact .inr fun hissued => hnew (hissued.mono h₁.count)
  slots := by
    intro f slot hslot
    rcases h₂.slots hslot with (hslot | ⟨request, callback, previous, x, hres, rfl⟩) | hnew
    · exact h₁.slots hslot
    · -- the reservation in between was one before, or has a new key
      refine (h₁.slots hres).imp (fun hheld => ?_) id
      exact .inr ⟨request, callback, previous, x, hheld.reserved, rfl⟩
    · exact .inr fun hissued => hnew (hissued.mono h₁.count)

/-- A key that is not pending any more is never pending again. -/
theorem pending_none (he : Evolves h h') {key : String} (hissued : Issued h.nextId key)
    (hkey : Table.get? key h.correlator.pending = none) :
    Table.get? key h'.correlator.pending = none := by
  cases hp : Table.get? key h'.correlator.pending with
  | none => rfl
  | some ticket =>
    rcases he.pending hp with hp | hnew
    · simp [hkey] at hp
    · exact absurd hissued hnew

/-- Nothing is ever reserved again under a key without a reservation. -/
theorem token_none (he : Evolves h h') (hc' : h'.registry.Coherent) (hc : h.registry.Coherent)
    {key : String} (hissued : Issued h.nextId key)
    (hkey : Table.get? key h.registry.byToken = none) :
    Table.get? key h'.registry.byToken = none := by
  cases htoken : Table.get? key h'.registry.byToken with
  | none => rfl
  | some f =>
    obtain ⟨request, callback, previous, hslot, rfl⟩ := hc'.slot_of_token htoken
    rcases he.slots hslot with hheld | hnew
    · simp [hc.token_of_slot hheld.reserved] at hkey
    · exact absurd hissued hnew

/-- A request that holds no feed any more never holds one again. -/
theorem request_none (he : Evolves h h') {key : String} (hissued : Issued h.nextId key)
    (hkey : ∀ f slot, Table.get? f h.registry.slots = some slot → slot.request.id.key ≠ key)
    (f : Feed) (slot : Slot) (hslot : Table.get? f h'.registry.slots = some slot) :
    slot.request.id.key ≠ key := by
  rcases he.slots hslot with (hslot | ⟨request, callback, previous, x, hres, rfl⟩) | hnew
  · exact hkey f slot hslot
  · exact hkey f (.reserved request callback previous) hres
  · rintro rfl
    exact hnew hissued

/-- Only the tables and the count matter. -/
theorem of_tables (he : Evolves h h') (htables : h''.tables = h'.tables)
    (hcount : h.nextId ≤ h''.nextId) : Evolves h h'' := by
  obtain ⟨hcorrelator, hregistry⟩ := Prod.mk.inj htables
  exact ⟨hcount, hcorrelator ▸ he.settled, hcorrelator ▸ he.pending, hregistry ▸ he.slots⟩

end Evolves

namespace Handler

variable {h : Handler} {s : Settings} {now : Duration} {link : LinkId}

/-! ### What an operation on the tables does -/

/-- Whatever settles a key and leaves no new reservation lets a handler evolve. -/
theorem evolves_settle (hc : h.correlator.Coherent) (key : String) (v : Settlement)
    {registry : Registry} (hslots : h.registry.Shrinks registry) :
    Evolves h { h with correlator := (h.correlator.settle key v).2, registry } where
  count := Nat.le_refl _
  settled := by
    intro ticket v' hs
    refine (Correlator.settlement?_settle_of_ne fun hp => ?_).trans hs
    simp [hc.unsettled hp] at hs
  pending := by
    intro k ticket hp
    rw [Correlator.get?_pending_settle] at hp
    split at hp
    · contradiction
    · exact .inl hp
  slots := fun hslot => .inl (hslots hslot)

theorem evolves_withdraw (hc : h.correlator.Coherent) (hr : h.registry.Coherent) (key : String) :
    Evolves h (h.withdraw key) :=
  evolves_settle hc key .dropped (hr.shrinks_release key)

/-- A key is drawn, and perhaps something is registered and reserved under it. -/
theorem evolves_draw {correlator : Correlator} {registry : Registry}
    (hsettled : ∀ {ticket v}, h.correlator.settlement? ticket = some v →
      correlator.settlement? ticket = some v)
    (hpending : ∀ {key}, h.nextKey ≠ key →
      Table.get? key correlator.pending = Table.get? key h.correlator.pending)
    (hslots : ∀ {f slot}, Table.get? f registry.slots = some slot →
      Table.get? f h.registry.slots = some slot ∨ slot.request.id.key = h.nextKey) :
    Evolves h { h with correlator, registry, nextId := h.nextId + 1 } where
  count := Nat.le_succ _
  settled := hsettled
  pending := by
    intro key ticket hp
    by_cases hkey : h.nextKey = key
    · exact .inr (hkey ▸ not_issued_fresh h.nextId)
    · exact .inl ((hpending hkey).symm.trans hp)
  slots := by
    intro f slot hslot
    refine (hslots hslot).imp .of_get? fun hkey => ?_
    rw [hkey]
    exact not_issued_fresh h.nextId

variable {ws : List Waiter}

theorem evolves_refuse (ht : Consistent h.correlator h.registry h.nextId ws) (what : String) :
    Evolves h { h with
      correlator := ((h.correlator.register (.fresh h.nextId) what).2.evict h.nextKey).2
      nextId := h.nextId + 1 } :=
  evolves_draw (ht.correlator.settlement?_evict_register ht.pending_fresh what)
    (fun _ => Correlator.get?_pending_evict_register ht.pending_fresh ..) .inl

theorem evolves_register (ht : Consistent h.correlator h.registry h.nextId ws) (what : String) :
    Evolves h { h with
      correlator := (h.correlator.register (.fresh h.nextId) what).2
      nextId := h.nextId + 1 } :=
  evolves_draw ((Correlator.settlement?_register ht.pending_fresh ..).trans ·)
    (fun hkey => (Correlator.get?_pending_register ht.pending_fresh ..).trans (if_neg hkey)) .inl

theorem evolves_reserve (ht : Consistent h.correlator h.registry h.nextId ws) (what : String)
    {f : Feed} {request : Request} {callback : Callback} {previous : Option SubscriptionId}
    {registry : Registry} (hid : request.id = .fresh h.nextId)
    (hr : h.registry.insertReserved f request callback previous = .ok registry) :
    Evolves h { h with
      correlator := (h.correlator.register (.fresh h.nextId) what).2, registry
      nextId := h.nextId + 1 } := by
  refine evolves_draw ((Correlator.settlement?_register ht.pending_fresh ..).trans ·)
    (fun hkey => (Correlator.get?_pending_register ht.pending_fresh ..).trans (if_neg hkey)) ?_
  intro g slot hslot
  rw [Registry.get?_slots_insertReserved hr] at hslot
  split at hslot
  · obtain rfl := Option.some.inj hslot
    exact .inr (congrArg RequestId.key hid)
  · exact .inl hslot

theorem evolves_clear (hc : h.correlator.Coherent) {registry : Registry}
    (hslots : h.registry.Shrinks registry) :
    Evolves h { h with correlator := h.correlator.clear.2, registry } where
  count := Nat.le_refl _
  settled := by
    intro ticket v hs
    rw [Correlator.settlement?_clear, if_neg, hs]
    intro hmem
    obtain ⟨⟨key, _⟩, hentry, rfl⟩ := List.mem_map.mp hmem
    simp [hc.unsettled ((Table.mem_iff_get? hc.distinct).mp hentry)] at hs
  pending := by simp
  slots := fun hslot => .inl (hslots hslot)

/-! ### Every step -/

theorem evolves_replay {r : Replaying} (hr : ReplayingFrom h r) (lost : Subscription)
    (failure : Option TransportError) :
    Evolves r.handler (replay s now link r lost failure).handler := by
  have hremade := remade_replay s now link hr.tables.token_fresh lost failure
  generalize replay s now link r lost failure = r' at hremade ⊢
  cases hremade with
  | held => exact evolves_draw id (fun _ => rfl) .inl
  | refused => exact evolves_refuse hr.tables _
  | accepted hres => exact evolves_reserve hr.tables _ rfl hres

theorem evolves_replayAll {r : Replaying} (hr : ReplayingFrom h r)
    (subscriptions : List Subscription) (failures : List (Option TransportError)) :
    Evolves r.handler (replayAll s now link r subscriptions failures).handler := by
  induction subscriptions generalizing r failures with
  | nil => exact .refl _
  | cons lost rest ih =>
    exact (evolves_replay hr lost _).trans (ih (hr.replay lost _) _)

theorem evolves_settleReplays (s : Settings) (now : Duration) (hc : h.Coherent) (ps : List Replay) :
    Evolves h (settleReplays s now h ps).1 := by
  have hinv : (settleReplays s now h ps).1.correlator.Coherent ∧
      (settleReplays s now h ps).1.registry.Coherent ∧
      Evolves h (settleReplays s now h ps).1 := by
    refine settleReplays_invariant
      (P := fun k => k.correlator.Coherent ∧ k.registry.Coherent ∧ Evolves h k) ?_
      ⟨hc.tables.correlator, hc.tables.registry, .refl h⟩
    rintro k p - ⟨hkc, hkr, he⟩
    exact ⟨hkc.settle _ .dropped, hkr.release _, he.trans (evolves_withdraw hkc hkr _)⟩
  exact hinv.2.2

/-- Making every subscription again on a connection. -/
theorem evolves_replaying (hc : h.Coherent) (hr : h.reader.isRedialing = true)
    (failures : List (Option TransportError)) :
    Evolves h (replaying s now h link failures).handler := by
  have hattached : Evolves h (h.attachedTo link) :=
    ⟨Nat.le_refl _, id, .inl, fun hslot => .inl (h.registry.shrinks_empty hslot)⟩
  exact hattached.trans (evolves_replayAll (hc.replayingFrom_start hr link) _ _)

theorem nextId_le_unsubscribeAttempt (h : Handler) (call : CallId) (feed : Feed)
    (backoff : Backoff) (failure : Option TransportError) :
    h.nextId ≤ (h.unsubscribeAttempt now call feed backoff failure).1.nextId := by
  have honce : h.nextId ≤ (h.unsubscribeOnce feed failure).1.nextId := by
    rcases h.unsubscribeOnce_cases feed failure with heq | heq | heq <;> rw [heq] <;> simp
  unfold unsubscribeAttempt
  dsimp only
  split
  · exact honce
  · exact honce
  · split
    · exact honce
    · exact honce

theorem nextId_readOn (h : Handler) : h.readOn.nextId = h.nextId := by
  unfold readOn
  split <;> rfl

theorem nextId_le_step (s : Settings) (now : Duration) (hc : h.Coherent) (event : Event) :
    h.nextId ≤ (h.step s now event).1.nextId := by
  cases event with
  | subscribe call feed params callback failure =>
    simp only [step]
    split
    · unfold subscribe
      dsimp only
      split
      · exact Nat.le_succ _
      · split
        · exact Nat.le_succ _
        · split <;> exact Nat.le_succ _
    · exact Nat.le_refl _
  | request call method params failure =>
    simp only [step]
    split
    · unfold request
      dsimp only
      split
      · exact Nat.le_succ _
      · split <;> exact Nat.le_succ _
    · exact Nat.le_refl _
  | unsubscribe call feed failure =>
    simp only [step]
    split
    · exact nextId_le_unsubscribeAttempt ..
    · exact Nat.le_refl _
  | close call failure =>
    simp only [step]
    split
    · unfold close
      split
      · exact Nat.le_refl _
      · cases h.link with
        | none => dsimp only; split <;> exact Nat.le_refl _
        | some link => dsimp only; split <;> exact Nat.le_succ _
    · exact Nat.le_refl _
  | join call =>
    simp only [step]
    split
    · unfold join
      split
      · exact Nat.le_refl _
      · dsimp only
        split <;> exact Nat.le_refl _
    · exact Nat.le_refl _
  | abandon call =>
    simp only [step, abandon]
    split <;> exact Nat.le_refl _
  | resume call failure =>
    simp only [step, resume]
    split
    · exact Nat.le_refl _
    · split <;> exact Nat.le_refl _
    · split <;> exact Nat.le_refl _
    · split
      · exact nextId_le_unsubscribeAttempt ..
      · exact Nat.le_refl _
    · split
      · exact Nat.le_refl _
      · split <;> exact Nat.le_refl _
    · split <;> exact Nat.le_refl _
  | received link text =>
    simp only [step]
    split
    · split
      · rw [nextId_readOn]
        rcases handleText_cases s h text with heq | ⟨key, outcome, -, heq⟩
        · exact Nat.le_of_eq (congrArg Handler.nextId heq).symm
        · exact Nat.le_of_eq (congrArg (·.1.nextId) heq).symm
      · exact Nat.le_refl _
    · exact Nat.le_refl _
  | lost link e =>
    simp only [step]
    split
    · split
      · unfold lose
        split
        · exact Nat.le_refl _
        · split
          · split
            · exact Nat.le_of_eq (nextId_readOn h).symm
            · exact Nat.le_refl _
          · exact Nat.le_refl _
      · exact Nat.le_refl _
    · exact Nat.le_refl _
  | noticed =>
    simp only [step]
    split
    · exact Nat.le_refl _
    · split <;> exact Nat.le_refl _
  | dialed result failures =>
    simp only [step]
    split
    · next hreader =>
      unfold dialed
      split
      · split
        · exact Nat.le_of_eq (nextId_readOn h).symm
        · rw [attach_eq]
          exact (evolves_replaying hc (Reader.isRedialing_of_dialing hreader) failures).count
      · split <;> exact Nat.le_refl _
    · exact Nat.le_refl _
  | woken =>
    simp only [step]
    split
    · split <;> exact Nat.le_refl _
    · exact Nat.le_refl _
  | settle n =>
    simp only [step]
    cases hb : h.batches.find? (·.recovery = n) with
    | none => simp only [settleBatch, hb]; exact Nat.le_refl _
    | some b =>
      obtain ⟨others, -, hout⟩ := settleBatch_of_batch s now hc hb
      have hcount := (evolves_settleReplays s now hc b.replays).count
      rw [hout _ _ rfl]
      split <;> exact hcount
  | release =>
    simp only [step]
    split <;> exact Nat.le_refl _

/-- **No step brings anything back.** -/
theorem Coherent.evolves_step (hc : h.Coherent) (s : Settings) (now : Duration) (event : Event) :
    Evolves h (h.step s now event).1 := by
  have htables := tables_step s now hc event
  have hcount := nextId_le_step s now hc event
  have hcause := causes_effect s now h event
  have hconsistent := hc.tables
  generalize h.effect s now event = effect at htables hcause
  cases hcause with
  | nothing => exact (Evolves.refl h).of_tables htables hcount
  | @refuse _ what => exact (evolves_refuse hconsistent what).of_tables htables hcount
  | @register _ method => exact (evolves_register hconsistent method).of_tables htables hcount
  | @reserve _ feed params callback _ _ _ hfree =>
    have hres := insertReserved_perform s now hfree params callback
    exact (evolves_reserve hconsistent ("subscribe to " ++ feed.name) rfl hres).of_tables
      htables hcount
  | @unregister _ _ feed =>
    have he : Evolves h { h with registry := (h.registry.unregister feed).2 } :=
      ⟨Nat.le_refl _, id, .inl, fun hslot => .inl (h.registry.shrinks_unregister feed hslot)⟩
    exact he.of_tables htables hcount
  | withdraw =>
    exact (evolves_withdraw hconsistent.correlator hconsistent.registry _).of_tables htables hcount
  | @reply _ _ key outcome =>
    have hslots : h.registry.Shrinks (h.handleReply key outcome).registry := by
      rw [registry_handleReply]
      split
      · exact hconsistent.registry.shrinks_confirm key _
      · exact hconsistent.registry.shrinks_release key
    exact (evolves_settle hconsistent.correlator key (.reply outcome) hslots).of_tables
      htables hcount
  | lose => exact (evolves_clear hconsistent.correlator .inl).of_tables htables hcount
  | close =>
    exact (evolves_clear hconsistent.correlator h.registry.shrinks_empty).of_tables htables hcount
  | attach hreader =>
    exact (evolves_replaying hc (Reader.isRedialing_of_dialing hreader) _).of_tables htables hcount
  | settle => exact (evolves_settleReplays s now hc _).of_tables htables hcount

/-- **What a slot was before a step.** It was there already, or was a reservation to which the
reader has handled a string in reply, or is a reservation under a new key. -/
theorem Coherent.slot_step (hc : h.Coherent) (s : Settings) (now : Duration) (event : Event)
    {f : Feed} {slot : Slot}
    (hslot : Table.get? f (h.step s now event).1.registry.slots = some slot) :
    Table.get? f h.registry.slots = some slot ∨
    (∃ request callback previous x,
      Table.get? f h.registry.slots = some (.reserved request callback previous) ∧
      slot = .active ⟨f, request, callback, ⟨x⟩⟩ ∧
      h.effect s now event = .reply request.id.key (.ok (.str x))) ∨
    ∃ request callback previous, slot = .reserved request callback previous ∧
      ¬Issued h.nextId request.id.key := by
  have hcause := causes_effect s now h event
  rw [registry_step s now hc event] at hslot
  generalize h.effect s now event = effect at hcause hslot ⊢
  cases hcause with
  | nothing | refuse | register | lose => exact .inl hslot
  | @reserve _ feed params callback =>
    simp only [perform] at hslot
    rw [Table.get?_set] at hslot
    split at hslot
    · obtain rfl := Option.some.inj hslot
      exact .inr (.inr ⟨_, _, _, rfl, not_issued_fresh h.nextId⟩)
    · exact .inl hslot
  | unregister => exact .inl (Registry.get?_slots_of_unregister hslot)
  | withdraw =>
    simp only [perform] at hslot
    rw [hc.tables.registry.get?_slots_release] at hslot
    split at hslot
    · contradiction
    · exact .inl hslot
  | @reply _ _ key outcome =>
    by_cases htoken : Table.get? key h.registry.byToken = some f
    · obtain ⟨request, callback, previous, hold, rfl⟩ := hc.tables.registry.slot_of_token htoken
      rw [perform, slots_handleReply_self hc.tables.registry hold] at hslot
      split at hslot
      · next x _ => exact .inr (.inl ⟨request, callback, previous, x, hold,
          (Option.some.inj hslot).symm, rfl⟩)
      · contradiction
    · rw [perform, slots_handleReply_of_ne hc.tables.registry htoken] at hslot
      exact .inl hslot
  | close => simp [perform, Registry.empty] at hslot
  | @attach link failures _ hdialing =>
    have hredial := Reader.isRedialing_of_dialing hdialing
    obtain ⟨request, callback, previous, rfl⟩ :=
      (hc.replaying_reserved s now hredial link failures).2 f slot hslot
    have hevolves : Evolves (h.attachedTo link) (replaying s now h link failures).handler :=
      evolves_replayAll (hc.replayingFrom_start hredial link) _ _
    rcases hevolves.slots hslot with hheld | hnew
    · have hnone := hheld.reserved
      simp [attachedTo, Registry.empty] at hnone
    · exact .inr (.inr ⟨_, _, _, rfl, hnew⟩)
  | @settle _ b =>
    have hinv : (settleReplays s now h b.replays).1.registry.Coherent ∧
        ∀ slot, Table.get? f (settleReplays s now h b.replays).1.registry.slots = some slot →
          Table.get? f h.registry.slots = some slot := by
      refine settleReplays_invariant (P := fun k => k.registry.Coherent ∧
        ∀ slot, Table.get? f k.registry.slots = some slot →
          Table.get? f h.registry.slots = some slot) ?_ ⟨hc.tables.registry, fun _ => id⟩
      rintro k p - ⟨hkr, hk⟩
      refine ⟨hkr.release _, fun slot hslot => ?_⟩
      have hslot : Table.get? f (k.registry.release p.pending.key).2.slots = some slot := hslot
      rw [hkr.get?_slots_release] at hslot
      split at hslot
      · contradiction
      · exact hk slot hslot
    exact .inl (hinv.2 slot hslot)

/-- Every feed is held by a request with a key that was drawn. -/
theorem Reachable.request_issued (hr : Reachable s h) {f : Feed} {slot : Slot}
    (hslot : Table.get? f h.registry.slots = some slot) : Issued h.nextId slot.request.id.key := by
  induction hr generalizing slot with
  | initial link => simp [Handler.initial, Registry.empty] at hslot
  | @step h now event hr ih =>
    have hcount := nextId_le_step s now hr.coherent event
    rcases hr.coherent.slot_step s now event hslot with
      hold | ⟨request, callback, previous, x, hold, rfl, -⟩ | ⟨request, callback, previous, rfl, -⟩
    · exact (ih hold).mono hcount
    · exact (ih hold).mono hcount
    · have hc' : (h.step s now event).1.Coherent := hr.coherent.step event
      exact hc'.tables.token_issued (hc'.tables.registry.token_of_slot hslot)

theorem Reachable.evolves_after (hr : Reachable s h) (events : List (Duration × Event)) :
    Evolves h (h.after s events) := by
  induction events generalizing h with
  | nil => exact .refl h
  | cons e rest ih => exact (hr.coherent.evolves_step s e.1 e.2).trans (ih (hr.step e.1 e.2))

end Handler

end FeedLink.Socket
