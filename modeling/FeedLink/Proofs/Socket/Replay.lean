import FeedLink.Proofs.Socket.Effect

/-!
# What a recovery makes of each feed

Attaching a connection makes every subscription again, one feed after the other, and a turn of a
batch looks after its replays in turn. No feed is in the way of another: what becomes of a feed
depends on the connection's answer to its own request alone, and on the time of its own replay.

## Main definitions

* `answerTo` — the answer of a connection to the request that subscribes to a feed again

## Main results

* `Handler.Coherent.slots_attach` — how a feed is held on a new connection
* `Handler.Coherent.slots_settle` — how a feed is held after a turn of a batch
-/

namespace FeedLink.Socket

/-- The answer of the connection to the request that subscribes to a feed again. -/
def answerTo (f : Feed) : List Subscription → List (Option TransportError) → Option TransportError
  | [], _ => none
  | lost :: rest, failures =>
    if lost.feed = f then failures.head?.getD none else answerTo f rest failures.tail

/-- A connection that takes every request answers none with an error. -/
theorem answerTo_nil (f : Feed) (subscriptions : List Subscription) :
    answerTo f subscriptions [] = none := by
  induction subscriptions with
  | nil => rfl
  | cons lost rest ih =>
    unfold answerTo
    split
    · rfl
    · exact ih

namespace Handler

variable {h : Handler} {s : Settings} {now : Duration} {link : LinkId} {r : Replaying}
  {lost : Subscription} {f : Feed}

/-! ### One replay -/

theorem slots_replay_of_ne (hr : ReplayingFrom h r) (hne : lost.feed ≠ f)
    (failure : Option TransportError) :
    Table.get? f (replay s now link r lost failure).handler.registry.slots =
      Table.get? f r.handler.registry.slots := by
  have hremade := remade_replay s now link hr.tables.token_fresh lost failure
  generalize replay s now link r lost failure = r' at hremade ⊢
  cases hremade with
  | held | refused => rfl
  | accepted hres => exact (Registry.get?_slots_insertReserved hres f).trans (if_neg hne)

/-- A replay reserves a free feed, unless the connection refuses it. -/
theorem slots_replay_self (hr : ReplayingFrom h r)
    (hfree : Table.get? lost.feed r.handler.registry.slots = none)
    (failure : Option TransportError) :
    Table.get? lost.feed (replay s now link r lost failure).handler.registry.slots =
      if failure.isSome then none
      else some (.reserved (lost.request.withFreshId r.handler.nextId) lost.callback
        (some lost.id)) := by
  have hremade := remade_replay s now link hr.tables.token_fresh lost failure
  generalize replay s now link r lost failure = r' at hremade ⊢
  cases hremade with
  | held hheld => simp [Table.has, hfree] at hheld
  | refused => exact hfree
  | accepted hres => exact (Registry.get?_slots_insertReserved hres _).trans (if_pos rfl)

/-! ### All replays -/

variable {subscriptions : List Subscription} {failures : List (Option TransportError)}

theorem slots_replayAll_of_not_mem (hr : ReplayingFrom h r) (hf : f ∉ subscriptions.map (·.feed)) :
    Table.get? f (replayAll s now link r subscriptions failures).handler.registry.slots =
      Table.get? f r.handler.registry.slots := by
  induction subscriptions generalizing r failures with
  | nil => rfl
  | cons a rest ih =>
    rw [List.map_cons, List.mem_cons, not_or] at hf
    exact (ih (hr.replay a _) hf.2).trans (slots_replay_of_ne hr (Ne.symm hf.1) _)

/-- Every subscription of a list is made again, unless the connection refuses it. -/
theorem slots_replayAll_of_mem (hr : ReplayingFrom h r)
    (hd : (subscriptions.map (·.feed)).Nodup)
    (hfree : ∀ a ∈ subscriptions, Table.get? a.feed r.handler.registry.slots = none)
    (hlost : lost ∈ subscriptions) :
    ∃ n, Table.get? lost.feed
        (replayAll s now link r subscriptions failures).handler.registry.slots =
      if (answerTo lost.feed subscriptions failures).isSome then none
      else some (.reserved (lost.request.withFreshId n) lost.callback (some lost.id)) := by
  induction subscriptions generalizing r failures with
  | nil => simp at hlost
  | cons a rest ih =>
    rw [List.map_cons, List.nodup_cons] at hd
    have hne : ∀ b ∈ rest, a.feed ≠ b.feed := fun b hb heq =>
      hd.1 (heq ▸ List.mem_map_of_mem hb)
    rcases List.mem_cons.mp hlost with rfl | hlost
    · refine ⟨r.handler.nextId, (slots_replayAll_of_not_mem (hr.replay lost _) hd.1).trans ?_⟩
      rw [slots_replay_self hr (hfree lost (List.mem_cons_self ..)), answerTo, if_pos rfl]
    · have hfree' : ∀ b ∈ rest, Table.get? b.feed
          (replay s now link r a (failures.head?.getD none)).handler.registry.slots = none := by
        intro b hb
        rw [slots_replay_of_ne hr (hne b hb)]
        exact hfree b (List.mem_cons_of_mem _ hb)
      rw [answerTo, if_neg (hne lost hlost)]
      exact ih (hr.replay a _) hd.2 hfree' hlost

/-- **How a feed is held on a new connection.** What is to be subscribed to again is reserved for a
request that differs in its id only, unless the connection has refused it; everything else is not
held. -/
theorem Coherent.slots_attach (hc : h.Coherent) (s : Settings) (now : Duration)
    (hr : h.reader.isRedialing = true) (link : LinkId) (failures : List (Option TransportError))
    (f : Feed) :
    ∃ n, Table.get? f (replaying s now h link failures).handler.registry.slots =
      match h.registry.replayable? f with
      | none => none
      | some lost =>
        if (answerTo f h.registry.replayables failures).isSome then none
        else some (.reserved (lost.request.withFreshId n) lost.callback (some lost.id)) := by
  have hstart := hc.replayingFrom_start hr link
  cases hlost : h.registry.replayable? f with
  | none =>
    refine ⟨0, slots_replayAll_of_not_mem hstart ?_⟩
    rintro hmem
    obtain ⟨lost, hlost', rfl⟩ := List.mem_map.mp hmem
    rw [Registry.mem_replayables hc.tables.registry, hlost] at hlost'
    contradiction
  | some lost =>
    have hfeed : lost.feed = f := by
      obtain ⟨slot, hslot, hreplayable⟩ := Option.bind_eq_some_iff.mp hlost
      exact Registry.feed_of_replayable hc.tables.registry hslot hreplayable
    obtain rfl := hfeed
    exact slots_replayAll_of_mem hstart (Registry.nodup_replayables hc.tables.registry)
      (fun _ _ => rfl) ((Registry.mem_replayables hc.tables.registry).mpr hlost)

/-! ### A turn of a batch -/

variable {p : Replay} {ps : List Replay} {ws : List Waiter}

/-- A replay that nobody has answered still has its reservation. -/
theorem token_of_expired (ht : Consistent h.correlator h.registry h.nextId ws) (hp : p.waiter ∈ ws)
    (hexpired : h.Expired now p) :
    Table.get? p.pending.key h.registry.byToken = some p.feed := by
  rcases ht.waits hp with hpending | ⟨-, v, hv⟩
  · exact ht.reserved hp rfl hpending
  · exact absurd (hv.symm.trans hexpired.1) (by simp)

/-- Looking after a replay empties the slot of its feed if it has expired, and leaves every other
slot alone. -/
theorem slots_settleReplay (s : Settings) (now : Duration)
    (ht : Consistent h.correlator h.registry h.nextId ws) (hp : p.waiter ∈ ws) (f : Feed) :
    (p.feed = f ∧ h.Expired now p →
      Table.get? f (h.settleReplay s now p).1.registry.slots = none) ∧
    (¬(p.feed = f ∧ h.Expired now p) →
      Table.get? f (h.settleReplay s now p).1.registry.slots =
        Table.get? f h.registry.slots) := by
  by_cases hexpired : h.Expired now p
  · have hslots : Table.get? f (h.settleReplay s now p).1.registry.slots =
        if p.feed = f then none else Table.get? f h.registry.slots := by
      rw [settleReplay_of_expired hexpired]
      refine (ht.registry.get?_slots_release p.pending.key f).trans ?_
      simp only [token_of_expired ht hp hexpired, Option.some.injEq]
    refine ⟨fun hf => hslots.trans (if_pos hf.1), fun hf => hslots.trans (if_neg ?_)⟩
    exact fun heq => hf ⟨heq, hexpired⟩
  · refine ⟨fun hf => absurd hf.2 hexpired, fun _ => ?_⟩
    cases hs : h.correlator.settlement? p.pending.ticket with
    | some v => rw [settleReplay_of_settled ht hp hs]
    | none => rw [settleReplay_of_waiting hs hexpired]

/-- Looking after one replay does not make another expire. -/
theorem expired_settleReplay
    (ht : Consistent h.correlator h.registry h.nextId (p.waiter :: ws)) {q : Replay}
    (hq : q.waiter ∈ ws) : (h.settleReplay s now p).1.Expired now q ↔ h.Expired now q := by
  have hne : p.pending.key ≠ q.pending.key := by
    have hnodup := ht.distinct
    rw [List.map_cons, List.nodup_cons] at hnodup
    exact fun heq => hnodup.1 (List.mem_map.mpr ⟨q.waiter, hq, heq.symm⟩)
  rcases settleReplay_cases s now h p with heq | heq <;> rw [heq]
  refine and_congr_left fun _ => ?_
  rw [show (h.withdraw p.pending.key).correlator.settlement? q.pending.ticket = _ from
    ht.settlement?_settle p.pending.key .dropped (List.mem_cons_of_mem _ hq) hne]
  rfl

/-- Looking after replays empties the slots of the feeds whose replay has expired, and leaves every
other slot alone. -/
theorem slots_settleReplays
    (ht : Consistent h.correlator h.registry h.nextId (ps.map Replay.waiter ++ ws)) (f : Feed) :
    ((∃ p ∈ ps, p.feed = f ∧ h.Expired now p) →
      Table.get? f (settleReplays s now h ps).1.registry.slots = none) ∧
    ((¬∃ p ∈ ps, p.feed = f ∧ h.Expired now p) →
      Table.get? f (settleReplays s now h ps).1.registry.slots =
        Table.get? f h.registry.slots) := by
  induction ps generalizing h ws with
  | nil => exact ⟨by simp, fun _ => rfl⟩
  | cons p rest ih =>
    have ht' := (consistent_settleReplay s now ht).perm (List.perm_append_comm_assoc ..)
    obtain ⟨hgone, hkept⟩ := ih ht'
    obtain ⟨hgone₁, hkept₁⟩ := slots_settleReplay s now ht (List.mem_cons_self ..) f
    have hrest : (∃ q ∈ rest, q.feed = f ∧ (h.settleReplay s now p).1.Expired now q) ↔
        ∃ q ∈ rest, q.feed = f ∧ h.Expired now q := by
      refine exists_congr fun q => and_congr_right fun hq => and_congr_right fun _ => ?_
      exact expired_settleReplay ht (List.mem_append_left _ (List.mem_map_of_mem hq))
    rw [hrest] at hgone hkept
    constructor
    · rintro ⟨q, hq, hf, hexpired⟩
      by_cases hlater : ∃ q ∈ rest, q.feed = f ∧ h.Expired now q
      · exact hgone hlater
      · rcases List.mem_cons.mp hq with rfl | hq
        · exact (hkept hlater).trans (hgone₁ ⟨hf, hexpired⟩)
        · exact absurd ⟨q, hq, hf, hexpired⟩ hlater
    · intro hnone
      have hlater : ¬∃ q ∈ rest, q.feed = f ∧ h.Expired now q := by
        rintro ⟨q, hq, hfq⟩
        exact hnone ⟨q, List.mem_cons_of_mem _ hq, hfq⟩
      exact (hkept hlater).trans (hkept₁ fun hp => hnone ⟨p, List.mem_cons_self .., hp⟩)

/-- **How a feed is held after a turn of a batch.** -/
theorem Coherent.slots_settle (s : Settings) (now : Duration) (hc : h.Coherent) {n : Nat}
    {b : Batch} (hb : h.batches.find? (·.recovery = n) = some b) (f : Feed) :
    ((∃ p ∈ b.replays, p.feed = f ∧ h.Expired now p) →
      Table.get? f (settleReplays s now h b.replays).1.registry.slots = none) ∧
    ((¬∃ p ∈ b.replays, p.feed = f ∧ h.Expired now p) →
      Table.get? f (settleReplays s now h b.replays).1.registry.slots =
        Table.get? f h.registry.slots) := by
  obtain ⟨others, hperm, -⟩ := settleBatch_of_batch s now hc hb
  exact slots_settleReplays (hc.tables.perm (waiters_perm_batch hperm).symm) f

end Handler

end FeedLink.Socket
