import FeedLink.Proofs.Socket.Attendance
import FeedLink.Proofs.Socket.Waiting

/-!
# Connected means resubscribed

A recovery attaches a connection and makes replays on it, which are waited for as a batch. Batches
of several recoveries can wait at a time, and those of earlier ones end in vain: their replays were
dropped with the connection. Only the batch of the latest recovery makes the handler connected
again, and only once each of its replays has been resolved: by a reply, or because its time was up.

The induction along the run is over what is left of the latest batch. A replay in it stays pending
until it is resolved, and a batch is over when nothing is left in it.

## Main definitions

* `Moment.Recovers` — a recovery attaches a connection and makes replays on it
* `Moment.Resolves` — a replay is acknowledged, refused, or given up because its time is up
* `Resubscribed` — every replay of the latest recovery has been resolved
* `Handler.Waits` — a replay of the latest recovery waits

## Main results

* `Handler.Coherent.waits_step` — a replay waits until it is resolved
* `Handler.underway_after` — the replays of the latest recovery are resolved or wait
* `Handler.connected_means_resubscribed`
-/

namespace FeedLink.Socket

namespace Moment

variable (s : Settings)

def Attaches (m : Moment) : Prop := ∃ link failures, m.effect s = .attach link failures

/-- The `n`th recovery attaches a connection, and makes replays on it. -/
def Recovers (n : Nat) (replays : List Replay) (m : Moment) : Prop :=
  ∃ link failures, m.effect s = .attach link failures ∧ m.before.recovery + 1 = n ∧
    (Handler.replaying s m.now m.before link failures).replays = replays

/-- A replay of the `n`th recovery is pending, and is resolved: the reader handles its reply, an
acknowledgement or a refusal, or its batch has a turn when its time is up. -/
def Resolves (n : Nat) (p : Replay) (m : Moment) : Prop :=
  Table.get? p.pending.key m.before.correlator.pending = some p.pending.ticket ∧
    ((∃ outcome, m.effect s = .reply p.pending.key outcome) ∨
      m.event = .settle n ∧ p.deadline ≤ m.now)

end Moment

/-- The `n`th recovery is the latest, and every replay that it has made has been resolved since. -/
def Resubscribed (s : Settings) (n : Nat) (ms : List Moment) : Prop :=
  ∃ earlier recovering later replays, ms = earlier ++ recovering :: later ∧
    recovering.Recovers s n replays ∧ (∀ m ∈ later, ¬m.Attaches s) ∧
      ∀ p ∈ replays, ∃ m ∈ later, m.Resolves s n p

namespace Handler

variable {h : Handler} {s : Settings} {now : Duration} {event : Event} {link : LinkId}
  {p : Replay} {ps : List Replay} {ws : List Waiter} {m : Moment} {ms : List Moment}

/-- A replay of the latest recovery waits. -/
def Waits (h : Handler) (p : Replay) : Prop :=
  (∃ b ∈ h.batches, b.recovery = h.recovery ∧ p ∈ b.replays) ∧
    Table.get? p.pending.key h.correlator.pending = some p.pending.ticket

theorem Waits.mem_waiters (hw : h.Waits p) : p.waiter ∈ h.waiters := by
  obtain ⟨⟨b, hb, -, hp⟩, -⟩ := hw
  exact mem_waiters_of_replay hb hp

/-- A connected handler waits for no replay. -/
theorem Attended.not_waits (ha : h.Attended) (hstate : h.state = .connected) : ¬h.Waits p := by
  rintro ⟨⟨b, hb, hrecovery, -⟩, -⟩
  exact ha.settled hstate b hb hrecovery

/-! ### Replays that were just made wait -/

theorem pending_replay {r : Replaying} (hr : ReplayingFrom h r)
    (hp : ∀ p ∈ r.replays,
      Table.get? p.pending.key r.handler.correlator.pending = some p.pending.ticket)
    (lost : Subscription) (failure : Option TransportError) :
    ∀ p ∈ (replay s now link r lost failure).replays,
      Table.get? p.pending.key
        (replay s now link r lost failure).handler.correlator.pending =
          some p.pending.ticket := by
  have hremade := remade_replay s now link hr.tables.token_fresh lost failure
  generalize replay s now link r lost failure = r' at hremade ⊢
  cases hremade with
  | held => exact hp
  | refused =>
    intro p hmem
    exact (Correlator.get?_pending_evict_register hr.tables.pending_fresh ..).trans (hp p hmem)
  | accepted =>
    intro p hmem
    refine (Correlator.get?_pending_register hr.tables.pending_fresh
      ("resubscribe to " ++ lost.feed.name) _).trans ?_
    rcases List.mem_append.mp hmem with hmem | hmem
    · rw [if_neg, hp p hmem]
      exact hr.tables.key_ne_fresh (List.mem_append_left _ (List.mem_map_of_mem hmem))
    · obtain rfl := List.mem_singleton.mp hmem
      exact if_pos rfl

/-- **The replays that a recovery has just made are pending.** -/
theorem pending_replayAll {r : Replaying} (hr : ReplayingFrom h r)
    (hp : ∀ p ∈ r.replays,
      Table.get? p.pending.key r.handler.correlator.pending = some p.pending.ticket)
    (subscriptions : List Subscription) (failures : List (Option TransportError)) :
    ∀ p ∈ (replayAll s now link r subscriptions failures).replays,
      Table.get? p.pending.key
        (replayAll s now link r subscriptions failures).handler.correlator.pending =
          some p.pending.ticket := by
  induction subscriptions generalizing r failures with
  | nil => exact hp
  | cons lost rest ih => exact ih (hr.replay lost _) (pending_replay hr hp lost _) _

/-! ### What waits stays in its batch -/

/-- A replay that is pending and has time left stays among those that are looked after. -/
theorem mem_settleReplays (s : Settings)
    (ht : Consistent h.correlator h.registry h.nextId (ps.map Replay.waiter ++ ws)) (hp : p ∈ ps)
    (hpending : Table.get? p.pending.key h.correlator.pending = some p.pending.ticket)
    (htime : ¬p.deadline ≤ now) :
    p ∈ (settleReplays s now h ps).2 ∧
      Table.get? p.pending.key (settleReplays s now h ps).1.correlator.pending =
        some p.pending.ticket := by
  induction ps generalizing h ws with
  | nil => simp at hp
  | cons q rest ih =>
    have hnodup := ht.distinct
    rw [List.map_cons, List.cons_append, List.map_cons, List.nodup_cons] at hnodup
    have hne : ∀ q' ∈ rest, q'.pending.key ≠ q.pending.key := by
      intro q' hq' hkey
      refine hnodup.1 (List.mem_map.mpr ⟨q'.waiter, ?_, hkey⟩)
      exact List.mem_append_left _ (List.mem_map_of_mem hq')
    rcases List.mem_cons.mp hp with rfl | hp
    · have hsettlement := ht.correlator.unsettled hpending
      have hkeep : h.settleReplay s now p = (h, some p) :=
        settleReplay_of_waiting hsettlement fun hexpired => htime hexpired.2
      simp only [settleReplays, hkeep]
      exact ⟨by simp, (pending_settleReplays_of_ne hne).trans hpending⟩
    · have ht' := (consistent_settleReplay s now ht).perm (List.perm_append_comm_assoc ..)
      have hpending' : Table.get? p.pending.key
          (h.settleReplay s now q).1.correlator.pending = some p.pending.ticket := by
        rcases settleReplay_cases s now h q with heq | heq <;> rw [heq]
        · exact hpending
        · exact (Correlator.get?_pending_settle ..).trans
            ((if_neg (Ne.symm (hne p hp))).trans hpending)
      obtain ⟨hmem, hstill⟩ := ih ht' hp hpending'
      exact ⟨List.mem_append_right _ hmem, hstill⟩

/-- A turn of a batch leaves a replay that waits where it is, unless its time is up. -/
theorem Coherent.waits_settle (hc : h.Coherent) (s : Settings) {batch : Batch}
    {others : List Batch} (hperm : h.batches.Perm (batch :: others)) (hw : h.Waits p)
    (htime : batch.recovery = h.recovery → ¬p.deadline ≤ now) :
    Table.get? p.pending.key (settleReplays s now h batch.replays).1.correlator.pending =
        some p.pending.ticket ∧
      (batch.recovery = h.recovery ∧ p ∈ (settleReplays s now h batch.replays).2 ∨
        ∃ b ∈ others, b.recovery = h.recovery ∧ p ∈ b.replays) := by
  obtain ⟨⟨b, hb, hrecovery, hp⟩, hpending⟩ := hw
  have ht := hc.tables.perm (waiters_perm_batch hperm).symm
  rcases List.mem_cons.mp (hperm.mem_iff.mp hb) with rfl | hother
  · obtain ⟨hmem, hstill⟩ := mem_settleReplays s ht hp hpending (htime hrecovery)
    exact ⟨hstill, .inl ⟨hrecovery, hmem⟩⟩
  · refine ⟨(pending_settleReplays_of_ne fun q hq hkey => ?_).trans hpending,
      .inr ⟨b, hother, hrecovery, hp⟩⟩
    -- nobody in the batch has the key of a replay in another
    have hnodup := ht.distinct
    rw [List.map_append] at hnodup
    refine (List.nodup_append.mp hnodup).2.2 _
      (List.mem_map_of_mem (List.mem_map_of_mem hq)) p.waiter.key (List.mem_map_of_mem ?_) hkey
    exact List.mem_append_right _ (List.mem_flatMap.mpr ⟨b, hother, List.mem_map_of_mem hp⟩)

/-- What waits is pending until it is resolved, or the handler is not online any longer. -/
theorem Coherent.pending_of_waits (hc : h.Coherent) (hw : h.Waits p) (s : Settings)
    (now : Duration) (event : Event) (hon : (h.step s now event).1.state.isOnline = true)
    (hnot : ¬(Moment.mk h now event).Resolves s h.recovery p) :
    Table.get? p.pending.key (h.step s now event).1.correlator.pending =
      some p.pending.ticket := by
  have hcause := causes_effect s now h event
  have hstay : h.effect s now event ≠ .withdraw p.waiter.key := by
    intro heff
    obtain ⟨⟨b, hb, -, hp⟩, -⟩ := hw
    rw [heff] at hcause
    generalize hkey : p.waiter.key = key at hcause
    cases hcause with
    | withdraw _ hcall hwaiter => exact hc.key_ne_of_replay hcall hwaiter hb hp hkey
  have hturn : ∀ replays, h.effect s now event = .settle replays →
      Table.get? p.waiter.key (settleReplays s now h replays).1.correlator.pending =
        some p.waiter.ticket := by
    intro replays heff
    rw [heff] at hcause
    cases hcause with
    | @settle n b hb =>
      obtain ⟨others, hperm, -⟩ := settleBatch_of_batch s now hc hb
      have hn : b.recovery = n := by simpa using List.find?_some hb
      refine (hc.waits_settle s hperm hw fun hrecovery htime => hnot ⟨hw.2, .inr ⟨?_, htime⟩⟩).1
      rw [← hrecovery, hn]
  have hverdict := hc.verdict_of_waiter hw.mem_waiters hw.2 hstay hturn
  cases heff : h.effect s now event with
  | reply key outcome =>
    rw [heff] at hverdict
    by_cases hkey : key = p.pending.key
    · exact absurd ⟨hw.2, .inl ⟨outcome, heff.trans (by rw [hkey])⟩⟩ hnot
    · simp only [Effect.verdict?, if_neg (show ¬key = p.waiter.key from hkey)] at hverdict
      exact hverdict
  | lose => simp [offline_of_settled hc (.inl heff)] at hon
  | close => simp [offline_of_settled hc (.inr heff)] at hon
  | _ => rw [heff] at hverdict; exact hverdict

/-- **A replay waits until it is resolved**, as long as the handler is online. -/
theorem Coherent.waits_step (hc : h.Coherent) (hw : h.Waits p) (s : Settings) (now : Duration)
    (event : Event) (hon : (h.step s now event).1.state.isOnline = true)
    (hnot : ¬(Moment.mk h now event).Resolves s h.recovery p) :
    (h.step s now event).1.Waits p := by
  refine ⟨?_, hc.pending_of_waits hw s now event hon hnot⟩
  have hsteers := hc.steers s now event
  change ∃ b ∈ (h.step s now event).1.control.batches,
    b.recovery = (h.step s now event).1.control.recovery ∧ p ∈ b.replays
  generalize (h.step s now event).1.control = c at hsteers ⊢
  cases hsteers with
  | idle | close | rest | read | lose | fail | pause | exhaust | wake | release => exact hw.1
  | attach hdialing =>
    have hpending := hw.2
    simp [(hc.redialing (Reader.isRedialing_of_dialing hdialing)).2] at hpending
  | @settle batch others hperm =>
    have htime : batch.recovery = h.recovery → ¬p.deadline ≤ now := fun hn htime =>
      hnot ⟨hw.2, .inr ⟨congrArg Event.settle hn, htime⟩⟩
    rcases (hc.waits_settle s hperm hw htime).2 with ⟨hn, hp⟩ | ⟨b, hb, hbp⟩
    · exact ⟨_, List.mem_append_right _ (List.mem_singleton_self _), hn, hp⟩
    · exact ⟨b, List.mem_append_left _ hb, hbp⟩
  | @complete batch others hperm hdone =>
    have htime : batch.recovery = h.recovery → ¬p.deadline ≤ now := fun hn htime =>
      hnot ⟨hw.2, .inr ⟨congrArg Event.settle hn, htime⟩⟩
    rcases (hc.waits_settle s hperm hw htime).2 with ⟨-, hp⟩ | hb
    · simp [hdone] at hp
    · exact hb

/-! ### The latest recovery, along a run -/

/-- The latest recovery has made replays, and each of them has been resolved since or waits. -/
def Underway (s : Settings) (h : Handler) (ms : List Moment) : Prop :=
  ∃ earlier recovering later replays, ms = earlier ++ recovering :: later ∧
    recovering.Recovers s h.recovery replays ∧ (∀ m ∈ later, ¬m.Attaches s) ∧
      ∀ p ∈ replays, (∃ m ∈ later, m.Resolves s h.recovery p) ∨ h.Waits p

/-- Where nothing waits, everything was resolved. -/
theorem Underway.resubscribed (hu : h.Underway s ms) (hnone : ∀ p, ¬h.Waits p) :
    Resubscribed s h.recovery ms := by
  obtain ⟨earlier, recovering, later, replays, hms, hrecovers, hlater, hall⟩ := hu
  exact ⟨earlier, recovering, later, replays, hms, hrecovers, hlater,
    fun p hp => (hall p hp).resolve_right (hnone p)⟩

/-- A recovery leaves its replays waiting. -/
theorem underway_of_attaches (hc : m.before.Coherent) (hm : m.Attaches s) :
    (m.after s).Underway s (ms ++ [m]) := by
  obtain ⟨link, failures, heff⟩ := hm
  have heff' : m.before.effect s m.now m.event = .attach link failures := heff
  obtain ⟨hredial, hcontrol⟩ := control_of_attach hc heff'
  have hrecovery : (m.after s).recovery = m.before.recovery + 1 :=
    congrArg Control.recovery hcontrol
  have hbatches : (m.after s).batches = m.before.batches ++ [⟨m.before.recovery + 1,
      (replaying s m.now m.before link failures).replays⟩] := congrArg Control.batches hcontrol
  refine ⟨ms, m, [], _, rfl, ⟨link, failures, heff, hrecovery.symm, rfl⟩, by simp,
    fun p hp => .inr ⟨?_, ?_⟩⟩
  · rw [hbatches, hrecovery]
    exact ⟨_, List.mem_append_right _ (List.mem_singleton_self _), rfl, hp⟩
  · rw [Moment.after, correlator_step s m.now hc m.event, heff']
    exact pending_replayAll (hc.replayingFrom_start hredial link) (by simp) _ _ p hp

/-- The number of recoveries only changes where a connection is attached. -/
theorem Coherent.recovery_step (hc : h.Coherent) (s : Settings) (now : Duration) (event : Event)
    (hnot : ∀ link failures, h.effect s now event ≠ .attach link failures) :
    (h.step s now event).1.recovery = h.recovery := by
  have hsteers := hc.steers s now event
  change (h.step s now event).1.control.recovery = _
  generalize (h.step s now event).1.control = c at hsteers ⊢
  cases hsteers with
  | @attach link failures _ hdialing hopen =>
    exact absurd (by simp only [effect, hdialing, if_neg hopen]) (hnot link failures)
  | _ => rfl

/-- What is under way stays so, as long as the handler is online and no other connection is
attached. -/
theorem Underway.concat (hu : m.before.Underway s ms) (hc : m.before.Coherent)
    (hon : (m.after s).state.isOnline = true) (hnot : ¬m.Attaches s) :
    (m.after s).Underway s (ms ++ [m]) := by
  obtain ⟨earlier, recovering, later, replays, rfl, hrecovers, hlater, hall⟩ := hu
  have hrecovery : (m.after s).recovery = m.before.recovery :=
    hc.recovery_step s m.now m.event fun link failures heff => hnot ⟨link, failures, heff⟩
  refine ⟨earlier, recovering, later ++ [m], replays, by simp, hrecovery.symm ▸ hrecovers, ?_, ?_⟩
  · intro m' hm'
    rcases List.mem_append.mp hm' with hm' | hm'
    · exact hlater m' hm'
    · exact List.mem_singleton.mp hm' ▸ hnot
  · intro p hp
    rw [hrecovery]
    rcases hall p hp with ⟨m', hm', hresolves⟩ | hw
    · exact .inl ⟨m', List.mem_append_left _ hm', hresolves⟩
    · by_cases hresolves : m.Resolves s m.before.recovery p
      · exact .inl ⟨m, by simp, hresolves⟩
      · exact .inr (hc.waits_step hw s m.now m.event hon hresolves)

/-- **The replays of the latest recovery are resolved or wait**, as long as the handler is online.
On the first connection there are none. -/
theorem underway_after (s : Settings) (first : LinkId) (events : List (Duration × Event))
    (hon : ((initial first).after s events).state.isOnline = true) :
    (((initial first).after s events).recovery = 0 ∧
      ((initial first).after s events).state = .connected) ∨
      ((initial first).after s events).Underway s (moments s (initial first) events) := by
  induction events using List.reverseRecOn with
  | nil => exact .inl ⟨rfl, rfl⟩
  | append_singleton events e ih =>
    have hreach := (Reachable.initial (s := s) first).after events
    have hc := hreach.coherent
    rw [after_concat] at hon ⊢
    rw [moments_concat]
    by_cases hattach : (Moment.mk ((initial first).after s events) e.1 e.2).Attaches s
    · exact .inr (underway_of_attaches hc hattach)
    · have hnot : ∀ link failures, ((initial first).after s events).effect s e.1 e.2 ≠
          .attach link failures := fun link failures heff => hattach ⟨link, failures, heff⟩
      rcases ih (hc.online_of_online_step s e.1 e.2 hon hnot) with ⟨hzero, hstate⟩ | hunder
      · refine .inl ⟨(hc.recovery_step s e.1 e.2 hnot).trans hzero, ?_⟩
        rcases hc.state_of_online s e.1 e.2 hon hnot with hsame | ⟨-, hconnected, -⟩
        · exact hsame.trans hstate
        · exact hconnected
      · exact .inr (hunder.concat hc hon hattach)

/-- **Connected means resubscribed.** After any run a handler that is connected has no reservation
for a replay, and is on its first connection or has seen every replay of the latest recovery
acknowledged, refused, or given up because its time was up. A handler becomes connected only at a
turn of the batch of the recovery that was the latest to attach a connection, and only if every
replay of it has been resolved in this way. -/
theorem connected_means_resubscribed (s : Settings) (first : LinkId)
    (events : List (Duration × Event)) :
    let h := (initial first).after s events
    let ms := moments s (initial first) events
    (h.state = .connected →
      (∀ f request callback previous,
        Table.get? f h.registry.slots = some (.reserved request callback previous) →
          previous = none) ∧
      (h.recovery = 0 ∨ Resubscribed s h.recovery ms)) ∧
    ∀ pre m post, ms = pre ++ m :: post →
      m.before.state ≠ .connected → (m.after s).state = .connected →
        m.before.state = .resubscribing ∧ m.event = .settle m.before.recovery ∧
          Resubscribed s m.before.recovery (pre ++ [m]) := by
  intro h ms
  constructor
  · intro hstate
    have hreach : Reachable s h := (Reachable.initial first).after events
    have ha := hreach.attended
    refine ⟨fun f request callback previous => ha.previous_of_connected hreach.coherent hstate, ?_⟩
    refine (underway_after s first events ?_).imp And.left fun hunder =>
      hunder.resubscribed fun p => ha.not_waits hstate
    rw [show ((initial first).after s events).state = _ from hstate]
    rfl
  · intro pre m post hms hbefore hafter
    obtain ⟨events₁, events₂, -, hpre, hm⟩ := moments_split hms
    obtain rfl := hpre
    have hreach : Reachable s m.before := hm ▸ (Reachable.initial first).after events₁
    have hc := hreach.coherent
    have hon : (m.after s).state.isOnline = true := by rw [hafter]; rfl
    have hnot : ¬m.Attaches s := by
      rintro ⟨link, failures, heff⟩
      have hstate : (m.after s).state = .resubscribing :=
        congrArg Control.state (control_of_attach hc heff).2
      rw [hstate] at hafter
      contradiction
    have hnot' : ∀ link failures, m.before.effect s m.now m.event ≠ .attach link failures :=
      fun link failures heff => hnot ⟨link, failures, heff⟩
    rcases hc.state_of_online s m.now m.event hon hnot' with hsame | ⟨hstate, -, hevent⟩
    · exact absurd (hsame.symm.trans hafter) hbefore
    · refine ⟨hstate, hevent, ?_⟩
      have hunder : m.before.Underway s (moments s (initial first) events₁) := by
        have hrun := underway_after s first events₁
        rw [hm] at hrun
        refine (hrun (by rw [hstate]; rfl)).resolve_left ?_
        rintro ⟨-, hconnected⟩
        exact hbefore hconnected
      have hresubscribed := (hunder.concat hc hon hnot).resubscribed fun p =>
        (hreach.step m.now m.event).attended.not_waits hafter
      rwa [show (m.after s).recovery = m.before.recovery from
        hc.recovery_step s m.now m.event hnot'] at hresubscribed

/-- Two recoveries that overlap: the second connection is lost before it has acknowledged anything,
and the batch of the first recovery is over only when the second has attached a third one. -/
def overlappingRecoveries : List (Duration × Event) :=
  lostSubscription ++ [(.zero, .dialed (.ok ⟨1⟩) []), (.zero, .lost ⟨1⟩ .closed),
    (.zero, .dialed (.ok ⟨2⟩) []), (.zero, .settle 1),
    (.zero, .received ⟨2⟩ "\x7b\"id\":\"3\",\"result\":\"y\"\x7d"), (.zero, .settle 2)]

theorem resubscribed_behind_two_losses :
    let h := (initial ⟨0⟩).after .standard overlappingRecoveries
    h.state = .connected ∧
      Resubscribed .standard 2 (moments .standard (initial ⟨0⟩) overlappingRecoveries) := by
  intro h
  have hstate : h.state = .connected := by decide +kernel
  have hrecovery : h.recovery = 2 := by decide +kernel
  obtain ⟨hconnected, -⟩ := connected_means_resubscribed .standard ⟨0⟩ overlappingRecoveries
  have hresubscribed := (hconnected hstate).2.resolve_left (by rw [hrecovery]; decide)
  rw [hrecovery] at hresubscribed
  exact ⟨hstate, hresubscribed⟩

end Handler

end FeedLink.Socket
