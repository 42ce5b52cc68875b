import FeedLink.Proofs.Socket.Coherence

/-!
# Every reachable handler is coherent

Two steps of a recovery walk along a list. Attaching a connection makes one replay after the other,
and a turn of a batch looks after its replays one after the other. The invariant of both walks is
`Consistent` for the waiters of the handler together with the replays of the list: those that were
made, in the one case, and those that still wait or were not looked after, in the other. Nothing but
the tables and the count of correlation ids changes on the way (`SameButTables`).

## Main definitions

* `Handler.Remade` — what making a subscription again comes to
* `Handler.ReplayingFrom` — the invariant of making subscriptions again
* `Handler.Expired` — nobody has answered a replay in its time

## Main results

* `Handler.Coherent.attach`, `Handler.Coherent.dialed` — a connection is attached
* `Handler.Coherent.settleBatch` — a batch is given a turn
* `Handler.Coherent.step`, `Handler.Reachable.coherent` — every reachable handler is coherent
-/

namespace FeedLink.Socket

open Json

namespace Handler

variable {h h' h'' : Handler} {s : Settings} {now : Duration} {link : LinkId}

/-- Only the tables and the count of correlation ids differ. -/
def SameButTables (h h' : Handler) : Prop :=
  h' = { h with correlator := h'.correlator, registry := h'.registry, nextId := h'.nextId }

namespace SameButTables

theorem refl (h : Handler) : SameButTables h h := rfl

theorem trans (h₁ : SameButTables h h') (h₂ : SameButTables h' h'') : SameButTables h h'' := by
  unfold SameButTables at *
  rw [h₁] at h₂
  exact h₂

theorem of_eq {correlator : Correlator} {registry : Registry} {n : Nat} :
    SameButTables h { h with correlator, registry, nextId := n } := rfl

end SameButTables

/-! ### Making subscriptions again -/

variable {r : Replaying} {lost : Subscription} {registry : Registry}

/-- What making a subscription again comes to, for an answer of the connection. -/
inductive Remade (s : Settings) (now : Duration) (link : LinkId) (r : Replaying)
    (lost : Subscription) : Option TransportError → Replaying → Prop
  /-- A feed that is held is not subscribed to again. -/
  | held {failure : Option TransportError}
      (held : Table.has lost.feed r.handler.registry.slots = true) :
      Remade s now link r lost failure
        { r with handler := { r.handler with nextId := r.handler.nextId + 1 } }
  /-- The reservation for a request that is refused is taken back. -/
  | refused {e : TransportError} {registry : Registry}
      (reserved : r.handler.registry.reserveReplay lost
        (lost.request.withFreshId r.handler.nextId) = .ok registry) :
      Remade s now link r lost (some e)
        { r with
          handler := { r.handler with
            nextId := r.handler.nextId + 1
            correlator :=
              ((r.handler.correlator.register (.fresh r.handler.nextId)
                ("resubscribe to " ++ lost.feed.name)).2.evict r.handler.nextKey).2 }
          outputs := r.outputs ++
            [.sent link (lost.request.withFreshId r.handler.nextId).text (some e)] }
  | accepted {registry : Registry}
      (reserved : r.handler.registry.reserveReplay lost
        (lost.request.withFreshId r.handler.nextId) = .ok registry) :
      Remade s now link r lost none
        ⟨{ r.handler with
            nextId := r.handler.nextId + 1
            correlator :=
              (r.handler.correlator.register (.fresh r.handler.nextId)
                ("resubscribe to " ++ lost.feed.name)).2
            registry },
          r.outputs ++ [.sent link (lost.request.withFreshId r.handler.nextId).text none],
          r.replays ++ [⟨lost.feed, r.handler.nextPending ("resubscribe to " ++ lost.feed.name),
            now + s.timeouts.requestWait⟩]⟩

theorem remade_replay (s : Settings) (now : Duration) (link : LinkId)
    (hfresh : Table.get? r.handler.nextKey r.handler.registry.byToken = none)
    (lost : Subscription) (failure : Option TransportError) :
    Remade s now link r lost failure (replay s now link r lost failure) := by
  cases hheld : Table.has lost.feed r.handler.registry.slots with
  | true =>
    simp only [replay, Registry.reserveReplay, Registry.insertReserved_of_held hheld]
    exact .held hheld
  | false =>
    obtain ⟨registry, hres⟩ : ∃ registry, r.handler.registry.reserveReplay lost
      (lost.request.withFreshId r.handler.nextId) = .ok registry :=
        Registry.insertReserved_of_free hheld
    cases failure with
    | some e =>
      have hundo : (registry.release (lost.request.withFreshId r.handler.nextId).id.key).2 =
        r.handler.registry := Registry.release_insertReserved hfresh hres
      simp only [replay, hres, withdraw, Correlator.key_register, hundo]
      exact .refused hres
    | none =>
      have hpending : (r.handler.correlator.register
          (lost.request.withFreshId r.handler.nextId).id ("resubscribe to " ++ lost.feed.name)).1 =
          r.handler.nextPending ("resubscribe to " ++ lost.feed.name) := register_fst ..
      simp only [replay, hres, hpending]
      exact .accepted hres

/-- The invariant of making subscriptions again, which began at `h`. -/
structure ReplayingFrom (h : Handler) (r : Replaying) : Prop where
  frame : SameButTables h r.handler
  tables : Consistent r.handler.correlator r.handler.registry r.handler.nextId
    (r.replays.map Replay.waiter ++ h.waiters)
  live : Live r.handler.correlator r.handler.registry

theorem ReplayingFrom.replay (hr : ReplayingFrom h r) (lost : Subscription)
    (failure : Option TransportError) :
    ReplayingFrom h (replay s now link r lost failure) := by
  have hremade := remade_replay s now link hr.tables.token_fresh lost failure
  generalize Handler.replay s now link r lost failure = r' at hremade ⊢
  cases hremade with
  | held => exact ⟨hr.frame.trans .of_eq, hr.tables.mono (Nat.le_succ _), hr.live⟩
  | refused hres =>
    have hundo := Registry.release_insertReserved hr.tables.token_fresh hres
    have htables := (hr.tables.reserve (.replay lost.feed) rfl hres rfl rfl
      ("resubscribe to " ++ lost.feed.name)).withdraw
    have hlive := (hr.live.reserve hr.tables.pending_fresh hres
      ("resubscribe to " ++ lost.feed.name)).release r.handler.nextKey .dropped
    exact ⟨hr.frame.trans .of_eq, hundo ▸ htables, hundo ▸ hlive⟩
  | accepted hres =>
    have htables := hr.tables.reserve (.replay lost.feed) rfl hres rfl rfl
      ("resubscribe to " ++ lost.feed.name)
    have hlive := hr.live.reserve hr.tables.pending_fresh hres
      ("resubscribe to " ++ lost.feed.name)
    refine ⟨hr.frame.trans .of_eq, ?_, hlive⟩
    have hnew : (⟨.replay lost.feed, (r.handler.correlator.register (.fresh r.handler.nextId)
        ("resubscribe to " ++ lost.feed.name)).1⟩ : Waiter) =
        (⟨lost.feed, r.handler.nextPending ("resubscribe to " ++ lost.feed.name),
          now + s.timeouts.requestWait⟩ : Replay).waiter := by
      rw [register_fst]
      rfl
    refine htables.perm ?_
    rw [List.map_append, List.append_assoc, List.map_singleton, ← hnew]
    exact List.perm_middle

theorem ReplayingFrom.replayAll (hr : ReplayingFrom h r) (subscriptions : List Subscription)
    (failures : List (Option TransportError)) :
    ReplayingFrom h (replayAll s now link r subscriptions failures) := by
  induction subscriptions generalizing r failures with
  | nil => exact hr
  | cons lost rest ih => exact ih (hr.replay lost _) _

/-- What no new reservation for a lost subscription breaks, making them again does not break. -/
theorem ReplayingFrom.registry_invariant {P : Registry → Prop}
    (hinsert : ∀ {registry registry' : Registry} {lost : Subscription} {n : Nat}, P registry →
      registry.reserveReplay lost (lost.request.withFreshId n) = .ok registry' → P registry')
    (hr : ReplayingFrom h r) (hP : P r.handler.registry) (subscriptions : List Subscription)
    (failures : List (Option TransportError)) :
    P (Handler.replayAll s now link r subscriptions failures).handler.registry := by
  induction subscriptions generalizing r failures with
  | nil => exact hP
  | cons lost rest ih =>
    refine ih (hr.replay lost _) ?_ _
    generalize failures.head?.getD none = failure
    have hremade := remade_replay s now link hr.tables.token_fresh lost failure
    generalize Handler.replay s now link r lost failure = r' at hremade ⊢
    cases hremade with
    | held | refused => exact hP
    | accepted hres => exact hinsert hP hres

/-! ### Attaching a connection -/

/-- The handler to which a connection was just attached, before anything is subscribed to again. -/
def attachedTo (h : Handler) (link : LinkId) : Handler :=
  { h with
    link := some link
    state := .resubscribing
    recovery := h.recovery + 1
    registry := .empty
    reader := .reading link }

/-- Every subscription of a handler, made again on a connection that was just attached. -/
def replaying (s : Settings) (now : Duration) (h : Handler) (link : LinkId)
    (failures : List (Option TransportError)) : Replaying :=
  replayAll s now link ⟨h.attachedTo link, [], []⟩ h.registry.replayables failures

theorem attach_eq (s : Settings) (now : Duration) (h : Handler) (link : LinkId)
    (failures : List (Option TransportError)) :
    h.attach s now link failures =
      ({ (replaying s now h link failures).handler with
          batches := (replaying s now h link failures).handler.batches ++
            [⟨h.recovery + 1, (replaying s now h link failures).replays⟩] },
        (replaying s now h link failures).outputs) := rfl

theorem Coherent.replayingFrom_start (hc : h.Coherent) (hr : h.reader.isRedialing = true)
    (link : LinkId) : ReplayingFrom (h.attachedTo link) ⟨h.attachedTo link, [], []⟩ :=
  ⟨.refl _, hc.tables.takeAll (hc.redialing hr).2, live_empty _⟩

theorem Coherent.replayingFrom (hc : h.Coherent) (s : Settings) (now : Duration)
    (hr : h.reader.isRedialing = true) (link : LinkId) (failures : List (Option TransportError)) :
    ReplayingFrom (h.attachedTo link) (replaying s now h link failures) :=
  (hc.replayingFrom_start hr link).replayAll _ _

/-- On a connection that was just attached nothing is active yet. -/
theorem Coherent.replaying_reserved (hc : h.Coherent) (s : Settings) (now : Duration)
    (hr : h.reader.isRedialing = true) (link : LinkId) (failures : List (Option TransportError)) :
    (replaying s now h link failures).handler.registry.byId = [] ∧
    ∀ f slot, Table.get? f (replaying s now h link failures).handler.registry.slots = some slot →
      ∃ request callback previous, slot = .reserved request callback previous := by
  refine (hc.replayingFrom_start hr link).registry_invariant
    (P := fun r => r.byId = [] ∧ ∀ f slot, Table.get? f r.slots = some slot →
      ∃ request callback previous, slot = .reserved request callback previous) ?_ ?_ _ _
  · rintro registry registry' lost n ⟨hid, hslots⟩ hres
    obtain ⟨-, rfl⟩ := Registry.insertReserved_eq_ok_iff.mp hres
    refine ⟨hid, fun f slot hslot => ?_⟩
    rw [Table.get?_set] at hslot
    split at hslot
    · exact ⟨_, _, _, (Option.some.inj hslot).symm⟩
    · exact hslots f slot hslot
  · refine ⟨rfl, fun f slot hslot => ?_⟩
    simp [attachedTo, Registry.empty] at hslot

theorem Coherent.attach (hc : h.Coherent) (hr : h.reader.isRedialing = true)
    (hstate : h.state ≠ .closed) (failures : List (Option TransportError)) :
    (h.attach s now link failures).1.Coherent := by
  have hrep : ReplayingFrom (h.attachedTo link) (replaying s now h link failures) :=
    hc.replayingFrom s now hr link failures
  have hstop : h.released = false → h.stopping = false := by
    intro hrel
    cases hst : h.stopping with
    | false => rfl
    | true =>
      rcases hc.stopped hst hrel with hcl | ⟨outcome, hended⟩
      · exact absurd hcl hstate
      · simp [hended, Reader.isRedialing] at hr
  rw [attach_eq]
  have hframe := hrep.frame
  generalize replaying s now h link failures = r at hrep hframe
  rw [hframe]
  exact {
    tables := by
      refine hrep.tables.perm ?_
      simp only [waiters, batchWaiters, attachedTo, List.flatMap_append, List.flatMap_singleton]
      rw [← List.append_assoc]
      exact List.perm_append_comm
    calls := hc.calls
    recoveries := by
      rw [List.map_append, List.map_singleton]
      refine List.nodup_append.mpr ⟨hc.recoveries, List.nodup_singleton _, ?_⟩
      rintro n hn m hm rfl
      obtain ⟨b, hb, hbn⟩ := List.mem_map.mp hn
      have hle := hc.recovery_le b hb
      have heq : b.recovery = h.recovery + 1 := hbn.trans (List.mem_singleton.mp hm)
      omega
    recovery_le := by
      intro b hb
      rcases List.mem_append.mp hb with hb | hb
      · exact Nat.le_succ_of_le (hc.recovery_le b hb)
      · rw [List.mem_singleton.mp hb]
        exact Nat.le_refl _
    live := fun _ => hrep.live
    attached := fun hl hrel => ⟨congrArg Reader.reading (Option.some.inj hl), hstop hrel⟩
    detached := by simp [attachedTo]
    redialing := by simp [attachedTo, Reader.isRedialing]
    released := hc.released
    closed := by simp [attachedTo]
    stopped := fun hst hrel => by simp [attachedTo, hstop hrel] at hst }

theorem Coherent.dialed (hc : h.Coherent) {backoff : Backoff} (hr : h.reader = .dialing backoff)
    (result : Except TransportError LinkId) (failures : List (Option TransportError)) :
    (h.dialed s now backoff result failures).1.Coherent := by
  have hredial := Reader.isRedialing_of_dialing hr
  obtain ⟨hlink, hpending⟩ := hc.redialing hredial
  unfold Handler.dialed
  split
  · split
    · rw [readOn_of_detached hlink]
      exact hc.stop (.inl hlink) _
    · next hstate => exact hc.attach hredial hstate failures
  · split
    · exact { hc with
        live := by simp
        attached := by simp [hlink]
        redialing := fun _ => ⟨hlink, hpending⟩
        stopped := fun hst hrel => by
          rcases hc.stopped hst hrel with hcl | ⟨outcome, hended⟩
          · exact .inl hcl
          · simp [hr] at hended }
    · exact { hc with
        live := by simp [Handler.stop]
        attached := by simp [Handler.stop, hlink]
        redialing := by simp [Handler.stop, Reader.isRedialing]
        closed := by simp [Handler.stop]
        stopped := fun _ _ => .inr ⟨_, rfl⟩ }

/-! ### Looking after replays -/

/-- Nobody has answered the replay in its time. -/
def Expired (h : Handler) (now : Duration) (p : Replay) : Prop :=
  h.correlator.settlement? p.pending.ticket = none ∧ p.deadline ≤ now

variable {p : Replay} {ps : List Replay} {ws : List Waiter}

/-- There is nothing to withdraw for a waiter who got a reply. -/
theorem withdraw_of_answered (ht : Consistent h.correlator h.registry h.nextId ws) {w : Waiter}
    (hw : w ∈ ws) {outcome : Outcome}
    (hs : h.correlator.settlement? w.ticket = some (.reply outcome)) : h.withdraw w.key = h := by
  have htoken := ht.answered hw hs
  rcases ht.waits hw with hp | ⟨hp, -⟩
  · rw [ht.correlator.unsettled hp] at hs
    contradiction
  · rw [withdraw, Registry.release_of_none htoken, Correlator.evict, Correlator.settle_of_none hp]

theorem settleReplay_of_settled (ht : Consistent h.correlator h.registry h.nextId ws)
    (hp : p.waiter ∈ ws) {settlement : Settlement}
    (hs : h.correlator.settlement? p.pending.ticket = some settlement) :
    h.settleReplay s now p = (h, none) := by
  cases settlement with
  | dropped => simp only [settleReplay, replyResult, hs, Settlement.result]
  | reply outcome =>
    cases outcome with
    | ok v => simp only [settleReplay, replyResult, hs, Settlement.result]
    | error e =>
      have hwithdraw : h.withdraw p.pending.key = h := withdraw_of_answered ht hp hs
      simp only [settleReplay, replyResult, hs, Settlement.result, hwithdraw]

theorem settleReplay_of_expired (hp : h.Expired now p) :
    h.settleReplay s now p = (h.withdraw p.pending.key, none) := by
  simp only [settleReplay, replyResult, hp.1, if_pos hp.2, PendingReply.timedOut]

theorem settleReplay_of_waiting (hs : h.correlator.settlement? p.pending.ticket = none)
    (hp : ¬h.Expired now p) : h.settleReplay s now p = (h, some p) := by
  have hlate : ¬p.deadline ≤ now := fun hle => hp ⟨hs, hle⟩
  simp only [settleReplay, replyResult, hs, if_neg hlate]

/-- Looking after a replay does nothing to the handler, or withdraws the replay. -/
theorem settleReplay_cases (s : Settings) (now : Duration) (h : Handler) (p : Replay) :
    (h.settleReplay s now p).1 = h ∨ (h.settleReplay s now p).1 = h.withdraw p.pending.key := by
  unfold settleReplay
  split
  · exact .inl rfl
  · exact .inl rfl
  · exact .inl rfl
  · exact .inr rfl

/-- What no withdrawal of its replays breaks, no turn of a batch breaks. -/
theorem settleReplays_invariant {P : Handler → Prop} {ps : List Replay}
    (hwithdraw : ∀ {h : Handler} {p : Replay}, p ∈ ps → P h → P (h.withdraw p.pending.key))
    (hP : P h) : P (settleReplays s now h ps).1 := by
  induction ps generalizing h with
  | nil => exact hP
  | cons p rest ih =>
    have hstep : P (h.settleReplay s now p).1 := by
      rcases settleReplay_cases s now h p with heq | heq <;> rw [heq]
      · exact hP
      · exact hwithdraw (List.mem_cons_self ..) hP
    exact ih (fun hp => hwithdraw (List.mem_cons_of_mem _ hp)) hstep

theorem frame_settleReplays (s : Settings) (now : Duration) (h : Handler) (ps : List Replay) :
    SameButTables h (settleReplays s now h ps).1 :=
  settleReplays_invariant (fun _ hframe => hframe.trans .of_eq) (.refl h)

/-- Looking after replays leaves every registration alone that is not theirs. -/
theorem pending_settleReplays_of_ne {key : String} (hne : ∀ p ∈ ps, p.pending.key ≠ key) :
    Table.get? key (settleReplays s now h ps).1.correlator.pending =
      Table.get? key h.correlator.pending := by
  refine settleReplays_invariant (P := fun k => Table.get? key k.correlator.pending =
    Table.get? key h.correlator.pending) (fun {k p} hp hk => ?_) rfl
  exact (Correlator.get?_pending_settle ..).trans ((if_neg (hne p hp)).trans hk)

/-- Looking after one replay keeps the tables consistent with it and with those who wait besides. -/
theorem consistent_settleReplay (s : Settings) (now : Duration)
    (ht : Consistent h.correlator h.registry h.nextId (p.waiter :: ws)) :
    Consistent (h.settleReplay s now p).1.correlator (h.settleReplay s now p).1.registry
      (h.settleReplay s now p).1.nextId
      ((h.settleReplay s now p).2.toList.map Replay.waiter ++ ws) := by
  cases hs : h.correlator.settlement? p.pending.ticket with
  | some settlement =>
    rw [settleReplay_of_settled ht (List.mem_cons_self ..) hs]
    refine ht.leave (List.sublist_cons_self ..).subperm ?_
    intro w hw hpending
    rcases List.mem_cons.mp hw with rfl | hw
    · exact absurd ((ht.correlator.unsettled hpending).symm.trans hs) (by simp)
    · exact hw
  | none =>
    by_cases hp : h.Expired now p
    · rw [settleReplay_of_expired hp]
      exact ht.withdraw
    · rw [settleReplay_of_waiting hs hp]
      exact ht

theorem consistent_settleReplays (s : Settings) (now : Duration)
    (ht : Consistent h.correlator h.registry h.nextId (ps.map Replay.waiter ++ ws)) :
    Consistent (settleReplays s now h ps).1.correlator (settleReplays s now h ps).1.registry
      (settleReplays s now h ps).1.nextId
      ((settleReplays s now h ps).2.map Replay.waiter ++ ws) := by
  induction ps generalizing h ws with
  | nil => exact ht
  | cons p rest ih =>
    have ht' := consistent_settleReplay s now ht
    -- the replay that was looked after waits behind the rest while these are looked after
    refine (ih (ht'.perm (List.perm_append_comm_assoc ..))).perm ?_
    simp only [settleReplays, List.map_append, List.append_assoc]
    exact List.perm_append_comm_assoc ..

/-- A batch, in front of the others. -/
theorem batches_perm {bs : List Batch} {b : Batch} {n : Nat} {other : Batch → Bool}
    (hother : ∀ x, other x = true ↔ x.recovery ≠ n) (hd : (bs.map (·.recovery)).Nodup)
    (hb : bs.find? (·.recovery = n) = some b) : bs.Perm (b :: bs.filter other) := by
  induction bs with
  | nil => simp at hb
  | cons a rest ih =>
    obtain ⟨hnot, hd⟩ := List.nodup_cons.mp hd
    by_cases ha : a.recovery = n
    · obtain rfl : a = b := by simpa [ha] using hb
      have hrest : rest.filter other = rest := by
        refine List.filter_eq_self.mpr fun x hx => (hother x).mpr fun hxn => hnot ?_
        exact List.mem_map.mpr ⟨x, hx, hxn.trans ha.symm⟩
      rw [List.filter_cons_of_neg (by simp [hother, ha]), hrest]
    · rw [List.filter_cons_of_pos ((hother a).mpr ha)]
      have hb' : rest.find? (·.recovery = n) = some b := by simpa [ha] using hb
      exact ((ih hd hb').cons a).trans (List.Perm.swap ..)

/-- The waiters, with the replays of a batch in front. -/
theorem waiters_perm_batch {b : Batch} {others : List Batch}
    (hperm : h.batches.Perm (b :: others)) :
    h.waiters.Perm
      (b.replays.map Replay.waiter ++ (callWaiters h.calls ++ batchWaiters others)) := by
  refine ((hperm.flatMap_right _).append_left _).trans ?_
  rw [List.flatMap_cons]
  exact List.perm_append_comm_assoc ..

/-- Batches may be over, if the tables are consistent with those that are not. -/
private theorem Coherent.rebatch (hc : h.Coherent) {correlator : Correlator} {registry : Registry}
    {n : Nat} {batches : List Batch} {state : ConnectionState}
    (ht : Consistent correlator registry n (callWaiters h.calls ++ batchWaiters batches))
    (hlive : Live h.correlator h.registry → Live correlator registry)
    (hpending : h.correlator.pending = [] → correlator.pending = [])
    (hbatches : (batches.map (·.recovery)).Subperm (h.batches.map (·.recovery)))
    (hstate : state = .closed ↔ h.state = .closed) :
    ({ h with correlator, registry, nextId := n, batches, state } : Handler).Coherent :=
  { hc with
    tables := ht
    recoveries := by
      obtain ⟨l, hperm, hl⟩ := hbatches
      exact hperm.nodup_iff.mp (hc.recoveries.sublist hl)
    recovery_le := by
      intro b hb
      obtain ⟨b', hb', heq⟩ := List.mem_map.mp (hbatches.subset (List.mem_map_of_mem hb))
      exact heq ▸ hc.recovery_le b' hb'
    live := fun hl => hlive (hc.live hl)
    detached := fun hl hr => hpending (hc.detached hl hr)
    redialing := fun hr => ⟨(hc.redialing hr).1, hpending (hc.redialing hr).2⟩
    closed := fun hcl => hc.closed (hstate.mp hcl)
    stopped := fun hst hr => (hc.stopped hst hr).imp hstate.mpr id }

/-- A turn of a batch, next to the batches that are left alone. -/
theorem settleBatch_of_batch (s : Settings) (now : Duration) (hc : h.Coherent) {n : Nat} {b : Batch}
    (hb : h.batches.find? (·.recovery = n) = some b) :
    ∃ others, h.batches.Perm (b :: others) ∧ ∀ h₁ waiting,
      settleReplays s now h b.replays = (h₁, waiting) →
      h.settleBatch s now n =
        if waiting.isEmpty then
          { h₁ with
            batches := others
            state :=
              if h₁.state = .resubscribing ∧ h₁.recovery = n then .connected else h₁.state }
        else { h₁ with batches := others ++ [⟨n, waiting⟩] } := by
  refine ⟨h.batches.filter (·.recovery ≠ n), batches_perm (by simp) hc.recoveries hb,
    fun h₁ waiting heq => ?_⟩
  have hframe : SameButTables h h₁ := by simpa [heq] using frame_settleReplays s now h b.replays
  simp only [settleBatch, hb, heq]
  rw [hframe]

theorem Coherent.settleBatch (hc : h.Coherent) (n : Nat) : (h.settleBatch s now n).Coherent := by
  cases hb : h.batches.find? (·.recovery = n) with
  | none =>
    simp only [Handler.settleBatch, hb]
    exact hc
  | some b =>
    have hbn : b.recovery = n := by simpa using List.find?_some hb
    obtain ⟨others, hperm, hout⟩ := settleBatch_of_batch s now hc hb
    have hframe := frame_settleReplays s now h b.replays
    have ht := consistent_settleReplays s now (hc.tables.perm (waiters_perm_batch hperm).symm)
    have hlive : Live h.correlator h.registry →
        Live (settleReplays s now h b.replays).1.correlator
          (settleReplays s now h b.replays).1.registry :=
      settleReplays_invariant (P := fun h => Live h.correlator h.registry)
        (fun _ hl => hl.release _ .dropped)
    have hpending : h.correlator.pending = [] →
        (settleReplays s now h b.replays).1.correlator.pending = [] :=
      settleReplays_invariant (P := (·.correlator.pending = [])) fun _ hp => by
        simp [withdraw, Correlator.evict, Correlator.settle, hp]
    have hbatches : (h.batches.map (·.recovery)).Perm
        (n :: others.map (·.recovery)) := hbn ▸ hperm.map _
    rcases heq : settleReplays s now h b.replays with ⟨h₁, waiting⟩
    rw [heq] at hframe ht hlive hpending
    dsimp only at hframe ht hlive hpending
    rw [hout h₁ waiting heq, hframe]
    split
    · next hempty =>
      obtain rfl : waiting = [] := List.isEmpty_iff.mp hempty
      refine hc.rebatch ht hlive hpending ?_ ?_
      · exact (List.sublist_cons_self ..).subperm.trans hbatches.symm.subperm
      · split
        · next hst =>
          have hstate : h.state = .resubscribing := hst.1
          simp [hstate]
        · rfl
    · refine hc.rebatch ?_ hlive hpending ?_ Iff.rfl
      · refine ht.perm ?_
        rw [batchWaiters, List.flatMap_append, List.flatMap_singleton, ← List.append_assoc]
        exact List.perm_append_comm
      · rw [List.map_append, List.map_singleton]
        exact ((List.perm_append_singleton ..).trans hbatches.symm).subperm

/-! ### Every step -/

/-- **A step keeps a handler coherent.** -/
theorem Coherent.step (hc : h.Coherent) (event : Event) : (h.step s now event).1.Coherent := by
  cases event with
  | subscribe call feed params callback failure =>
    simp only [Handler.step]
    split
    · next hadm => exact hc.subscribe hadm ..
    · exact hc
  | request call method params failure =>
    simp only [Handler.step]
    split
    · next hadm => exact hc.request hadm ..
    · exact hc
  | unsubscribe call feed failure =>
    simp only [Handler.step]
    split
    · next hadm =>
      obtain ⟨hr, hcall⟩ := admits_iff.mp hadm
      exact hc.unsubscribeAttempt hr (by rw [hcall]; rfl) ..
    · exact hc
  | close call failure =>
    simp only [Handler.step]
    split
    · next hadm => exact hc.close hadm _
    · exact hc
  | join call =>
    simp only [Handler.step]
    split
    · next hadm => exact hc.join hadm
    · exact hc
  | abandon call => exact hc.abandon call
  | resume call failure => exact hc.resume call failure
  | received l text =>
    simp only [Handler.step]
    split
    · next hreader =>
      split
      · exact (hc.handleText text).readOn ((reader_handleText s h text).trans hreader)
      · exact hc
    · exact hc
  | lost l e =>
    simp only [Handler.step]
    split
    · next hreader =>
      split
      · exact hc.lose hreader e
      · exact hc
    · exact hc
  | noticed =>
    simp only [Handler.step]
    split
    · exact hc
    · split
      · next hst => exact hc.stop_of_stopping hst _
      · exact hc
  | dialed result failures =>
    simp only [Handler.step]
    split
    · next hreader => exact hc.dialed hreader ..
    · exact hc
  | woken =>
    simp only [Handler.step]
    split
    · next hreader =>
      have hredial : h.reader.isRedialing = true := by rw [hreader]; rfl
      obtain ⟨hlink, hpending⟩ := hc.redialing hredial
      split
      · exact { hc with
          live := by simp
          attached := by simp [hlink]
          redialing := fun _ => ⟨hlink, hpending⟩
          stopped := fun hst hr => by
            refine (hc.stopped hst hr).imp id ?_
            rintro ⟨outcome, hended⟩
            simp [hreader] at hended }
      · exact hc
    · exact hc
  | settle recovery => exact hc.settleBatch recovery
  | release =>
    simp only [Handler.step]
    split
    · next hrel =>
      obtain ⟨-, hcalls⟩ : h.released = false ∧ h.calls = [] := by simpa using hrel
      exact hc.release hcalls
    · exact hc

/-- **Every reachable handler is coherent.** -/
theorem Reachable.coherent (hr : Reachable s h) : h.Coherent := by
  induction hr with
  | initial link => exact coherent_initial link
  | step now event _ ih => exact ih.step event

end Handler

end FeedLink.Socket
