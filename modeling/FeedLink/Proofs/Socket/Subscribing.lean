import FeedLink.Proofs.Socket.Waiting

/-!
# The result of a subscribe and the registry agree

A subscribe reserves its feed under a key of its own and waits for the reply to it. It returns that
it has subscribed exactly when a string was that reply and made its own reservation active. However
else it ends, nothing is left of it in either table, its reply comes too late to change anything,
and whatever other calls have made is untouched.

## Main definitions

* `NoTrace` — nothing is pending under a key, and no feed is held by the request with it
* `LeavesOthers` — two handlers differ under one key only
* `Moment.Confirms` — a moment makes a reservation active

## Main results

* `Handler.leavesOthers_reply`, `Handler.leavesOthers_withdraw` — a rollback is exact
* `Handler.own_slot` — what holds a feed by the request of a call
* `Handler.subscribe_agrees_with_registry`
-/

namespace FeedLink.Socket

open Json

/-- Nothing is pending under the key, and no feed is held by the request with it. -/
def NoTrace (key : String) (h : Handler) : Prop :=
  Table.get? key h.correlator.pending = none ∧
    ∀ f slot, Table.get? f h.registry.slots = some slot → slot.request.id.key ≠ key

/-- What is pending under other keys, and what feeds are held by other requests, is the same. -/
def LeavesOthers (key : String) (h h' : Handler) : Prop :=
  (∀ other, other ≠ key →
    Table.get? other h'.correlator.pending = Table.get? other h.correlator.pending) ∧
  ∀ f slot, slot.request.id.key ≠ key →
    (Table.get? f h'.registry.slots = some slot ↔ Table.get? f h.registry.slots = some slot)

/-- The moment makes the reservation of a feed active that was made for a request: the reader
handles a string in reply to it. -/
def Moment.Confirms (s : Settings) (feed : Feed) (request : Request) (callback : Callback)
    (m : Moment) : Prop :=
  Table.get? feed m.before.registry.slots = some (.reserved request callback none) ∧
    ∃ x, m.effect s = .reply request.id.key (.ok (.str x)) ∧
      Table.get? feed (m.after s).registry.slots = some (.active ⟨feed, request, callback, ⟨x⟩⟩)

namespace Handler

variable {h : Handler} {s : Settings} {now : Duration} {event : Event} {call : CallId}
  {link : LinkId} {feed : Feed} {params : Value} {callback : Callback}

/-! ### Rollbacks are exact -/

/-- A reply touches nothing but what waits for it. -/
theorem leavesOthers_reply (hc : h.Coherent) {key : String} {outcome : Outcome}
    (heff : h.effect s now event = .reply key outcome) :
    LeavesOthers key h (h.step s now event).1 := by
  have hcorrelator := correlator_step s now hc event
  have hregistry := registry_step s now hc event
  rw [heff] at hcorrelator hregistry
  rw [LeavesOthers, hcorrelator, hregistry]
  refine ⟨fun other hne => ?_, fun f slot hne => ?_⟩
  · exact (Correlator.get?_pending_settle ..).trans (if_neg (Ne.symm hne))
  · by_cases htoken : Table.get? key h.registry.byToken = some f
    · obtain ⟨request, callback, previous, hold, rfl⟩ := hc.tables.registry.slot_of_token htoken
      rw [perform, slots_handleReply_self hc.tables.registry hold, hold]
      -- both before and after, the slot of the feed was requested under the key
      constructor
      · intro hslot
        split at hslot
        · obtain rfl := Option.some.inj hslot
          exact absurd rfl hne
        · contradiction
      · intro hslot
        obtain rfl := Option.some.inj hslot
        exact absurd rfl hne
    · rw [perform, slots_handleReply_of_ne hc.tables.registry htoken]

/-- The end of a call touches nothing but what the call has made. -/
theorem leavesOthers_withdraw (hc : h.Coherent) {key : String}
    (heff : h.effect s now event = .withdraw key) :
    LeavesOthers key h (h.step s now event).1 := by
  have hcorrelator := correlator_step s now hc event
  have hregistry := registry_step s now hc event
  rw [heff] at hcorrelator hregistry
  rw [LeavesOthers, hcorrelator, hregistry]
  refine ⟨fun other hne => ?_, fun f slot hne => ?_⟩
  · exact (Correlator.get?_pending_settle ..).trans (if_neg (Ne.symm hne))
  · rw [perform, hc.tables.registry.get?_slots_release]
    split
    · next htoken =>
      obtain ⟨request, callback, previous, hold, rfl⟩ := hc.tables.registry.slot_of_token htoken
      rw [hold]
      refine ⟨fun hslot => by contradiction, fun hslot => ?_⟩
      obtain rfl := Option.some.inj hslot
      exact absurd rfl hne
    · exact Iff.rfl

/-- A reply that nobody waits for, and under whose key nothing is reserved, changes nothing. -/
theorem tables_of_late_reply (hc : h.Coherent) {key : String} {outcome : Outcome}
    (hpending : Table.get? key h.correlator.pending = none)
    (htoken : Table.get? key h.registry.byToken = none)
    (heff : h.effect s now event = .reply key outcome) :
    (h.step s now event).1.tables = h.tables := by
  rw [tables_step s now hc event, heff]
  refine Prod.ext ?_ (registry_handleReply_of_none htoken outcome)
  exact Correlator.settle_of_none hpending _

/-! ### Beginning to subscribe -/

/-- A subscribe that was written waits under the next key, unsettled, and has reserved its feed. -/
theorem subscribe_begins (hr : Reachable s h) (hadm : h.admits call = true)
    (hlink : h.link = some link) (hfree : Table.get? feed h.registry.slots = none) (now : Duration)
    (params : Value) (callback : Callback) :
    let sent : Moment := ⟨h, now, .subscribe call feed params callback none⟩
    sent.outputs s = [.sent link (Request.subscribe h.nextId feed params).text none] ∧
    Table.get? call (sent.after s).calls =
      some (.subscribing feed (h.nextPending ("subscribe to " ++ feed.name))
        (now + s.timeouts.requestWait)) ∧
    (sent.after s).correlator.settlement?
      (h.nextPending ("subscribe to " ++ feed.name)).ticket = none ∧
    ∀ f slot, Table.get? f (sent.after s).registry.slots = some slot →
      slot.request.id.key = h.nextKey →
        f = feed ∧ slot = .reserved (.subscribe h.nextId feed params) callback none := by
  intro sent
  have hc := hr.coherent
  obtain ⟨registry, hres⟩ : ∃ r, h.registry.reserve feed (.subscribe h.nextId feed params)
    callback = .ok r := Registry.insertReserved_of_free (Table.has_eq_false_iff.mpr hfree)
  have hstep : h.step s now (.subscribe call feed params callback none) =
      h.subscribe s now call feed params callback none := by simp only [step, hadm, if_true]
  have hpending : Table.get? h.nextKey (sent.after s).correlator.pending =
      some (h.nextPending ("subscribe to " ++ feed.name)).ticket := by
    simp only [sent, Moment.after, hstep, subscribe_of_accepted hlink hres]
    exact (Correlator.get?_pending_register hc.tables.pending_fresh
      ("subscribe to " ++ feed.name) _).trans (if_pos rfl)
  refine ⟨?_, ?_, (hc.step _).tables.correlator.unsettled hpending, ?_⟩
  · simp only [sent, Moment.outputs, hstep, subscribe_of_accepted hlink hres]
  · simp only [sent, Moment.after, hstep, subscribe_of_accepted hlink hres]
    exact Table.get?_set_self ..
  · intro f slot hslot hkey
    simp only [sent, Moment.after, hstep, subscribe_of_accepted hlink hres] at hslot
    rw [Registry.get?_slots_insertReserved hres] at hslot
    split at hslot
    · next hf => exact ⟨hf.symm, (Option.some.inj hslot).symm⟩
    · -- a slot from before was requested under an older key
      have hissued := hr.request_issued hslot
      rw [hkey] at hissued
      exact absurd hissued (not_issued_fresh h.nextId)

/-! ### Its own reservation -/

variable {request : Request} {events : List (Duration × Event)}

/-- A feed is held by the request of a call as its reservation, until a moment confirms it. -/
theorem own_slot (hr : Reachable s h) (hissued : Issued h.nextId request.id.key)
    (hown : ∀ f slot, Table.get? f h.registry.slots = some slot →
      slot.request.id.key = request.id.key → f = feed ∧ slot = .reserved request callback none)
    (hnone : ∀ m ∈ moments s h events, ¬m.Confirms s feed request callback) (f : Feed) (slot : Slot)
    (hslot : Table.get? f (h.after s events).registry.slots = some slot)
    (hkey : slot.request.id.key = request.id.key) :
    f = feed ∧ slot = .reserved request callback none := by
  induction events using List.reverseRecOn generalizing f slot with
  | nil => exact hown f slot hslot hkey
  | append_singleton events e ih =>
    obtain ⟨now, event⟩ := e
    rw [moments_concat] at hnone
    rw [after_concat] at hslot
    have ih := ih fun m hm => hnone m (List.mem_append_left _ hm)
    have hr' := hr.after events
    rcases hr'.coherent.slot_step s now event hslot with
      hold | ⟨request', callback', previous, x, hold, rfl, heff⟩ | ⟨_, _, _, rfl, hnew⟩
    · exact ih f slot hold hkey
    · obtain ⟨rfl, heq⟩ := ih f _ hold hkey
      obtain ⟨rfl, rfl, rfl⟩ := Slot.reserved.inj heq
      exact absurd ⟨hold, x, heff, hslot⟩ (hnone ⟨h.after s events, now, event⟩ (by simp))
    · exact absurd (hkey ▸ hissued.mono (hr.evolves_after events).count) hnew

/-- Where nothing is pending or reserved under a key, a reply to it changes nothing, now or at any
later time. -/
theorem late_reply_after (hr : Reachable s h) {key : String} (hissued : Issued h.nextId key)
    (hpending : Table.get? key h.correlator.pending = none)
    (htoken : Table.get? key h.registry.byToken = none) {m : Moment} (hm : m ∈ moments s h events)
    {outcome : Outcome} (heff : m.effect s = .reply key outcome) :
    (m.after s).tables = m.before.tables := by
  obtain ⟨pre, -, -, hbefore⟩ := exists_of_mem_moments hm
  have hevolves : Evolves h m.before := hbefore ▸ hr.evolves_after pre
  have hc := (hr.of_mem_moments hm).coherent
  exact tables_of_late_reply hc (hevolves.pending_none hissued hpending)
    (hevolves.token_none hc.tables.registry hr.coherent.tables.registry hissued htoken) heff

/-- The first verdict on a subscribe that waits is a string exactly when a moment has confirmed its
reservation. -/
theorem firstVerdict_str_iff (hr : Reachable s h) {pending : PendingReply} {deadline : Duration}
    (hcall : Table.get? call h.calls = some (.subscribing feed pending deadline))
    (hs : h.correlator.settlement? pending.ticket = none) (hkey : request.id.key = pending.key)
    (hown : ∀ f slot, Table.get? f h.registry.slots = some slot →
      slot.request.id.key = request.id.key → f = feed ∧ slot = .reserved request callback none)
    (hstay : ∀ m ∈ moments s h events, ¬m.Ends s call) :
    (∃ x, firstVerdict s pending.key (moments s h events) = some (.reply (.ok (.str x)))) ↔
      ∃ m ∈ moments s h events, m.Confirms s feed request callback := by
  -- up to a moment at which nothing was settled yet, the subscribe is pending
  have hat : ∀ {pre m post}, moments s h events = pre ++ m :: post →
      Reachable s m.before ∧
      Table.get? call m.before.calls = some (.subscribing feed pending deadline) ∧
      m.before.correlator.settlement? pending.ticket = firstVerdict s pending.key pre ∧
      Evolves h m.before := by
    intro pre m post hms
    obtain ⟨events₁, events₂, -, hpre, hbefore⟩ := moments_split hms
    obtain ⟨hcall', hs'⟩ := settlement?_after hr hcall rfl hs events₁ fun m' hm' =>
      hstay m' (hms ▸ List.mem_append_left _ (hpre ▸ hm'))
    rw [hbefore] at hcall' hs'
    exact ⟨hbefore ▸ hr.after events₁, hcall', hpre ▸ hs', hbefore ▸ hr.evolves_after events₁⟩
  have hissued : Issued h.nextId request.id.key :=
    hkey ▸ hr.coherent.tables.waiter_issued (mem_waiters_of_call hcall rfl)
  constructor
  · rintro ⟨x, hx⟩
    obtain ⟨pre, m, post, hms, hverdict, hpre⟩ := List.findSome?_eq_some_iff.mp hx
    obtain ⟨hr', hcall', hs', hevolves⟩ := hat hms
    have hc := hr'.coherent
    have hunsettled : m.before.correlator.settlement? pending.ticket = none :=
      hs'.trans (List.findSome?_eq_none_iff.mpr hpre)
    have hmem := mem_waiters_of_call hcall' (w := ⟨.subscribe feed, pending⟩) rfl
    have hpending : Table.get? pending.key m.before.correlator.pending = some pending.ticket := by
      rcases hc.tables.waits hmem with hp | ⟨-, v, hv⟩
      · exact hp
      · exact absurd (hv.symm.trans hunsettled) (by simp)
    have htoken := hc.tables.reserved hmem rfl hpending
    obtain ⟨request', callback', previous, hslot, hkey'⟩ := hc.tables.registry.slot_of_token htoken
    have hheld := (hevolves.slots hslot).resolve_right fun hnew =>
      hnew ((hkey'.trans hkey.symm) ▸ hissued)
    obtain ⟨-, heq⟩ := hown _ _ hheld.reserved (hkey'.trans hkey.symm)
    obtain ⟨rfl, rfl, rfl⟩ := Slot.reserved.inj heq
    have heff : m.effect s = .reply request'.id.key (.ok (.str x)) :=
      hkey ▸ Effect.eq_reply_of_verdict hverdict
    refine ⟨m, by simp [hms], hslot, x, heff, ?_⟩
    rw [Moment.after, registry_step s m.now hc m.event,
      show m.before.effect s m.now m.event = _ from heff]
    exact slots_handleReply_self hc.tables.registry hslot (.ok (.str x))
  · rintro ⟨m, hm, hslot, x, heff, -⟩
    obtain ⟨pre, post, hms⟩ := List.append_of_mem hm
    obtain ⟨hr', hcall', hs', -⟩ := hat hms
    have hc := hr'.coherent
    -- the reader reads, so the reservation waits for its reply and nothing was settled before
    obtain ⟨l, hreader⟩ := reading_of_effect_reply heff
    obtain ⟨ticket, hpending⟩ := hc.live hreader _ _ (hc.tables.registry.token_of_slot hslot)
    have hmem := mem_waiters_of_call hcall' (w := ⟨.subscribe feed, pending⟩) rfl
    rw [hkey] at hpending
    have hticket : ticket = pending.ticket := hc.tables.ticket_eq hmem hpending
    have hnone := hc.tables.correlator.unsettled hpending
    rw [hticket, hs'] at hnone
    refine ⟨x, ?_⟩
    have hverdict : m.verdict? s pending.key = some (.reply (.ok (.str x))) := by
      rw [Moment.verdict?, heff]
      exact if_pos hkey
    rw [firstVerdict, hms, List.findSome?_append]
    rw [firstVerdict] at hnone
    rw [hnone, Option.none_or, List.findSome?_cons, hverdict]

/-- A subscribe returns that it has subscribed exactly when it was answered with a string. -/
theorem subscribeResult_waited_iff {what : String} {deadline : Duration} {v : Option Settlement} :
    (waited s what deadline now v).map (subscribeResult feed) = some (.ok none) ↔
      ∃ x, v = some (.reply (.ok (.str x))) := by
  constructor
  · intro hok
    cases v with
    | none =>
      simp only [waited] at hok
      split at hok <;> simp [subscribeResult] at hok
    | some v =>
      cases v with
      | dropped => simp [waited, subscribeResult] at hok
      | reply outcome =>
        cases outcome with
        | error e => simp [waited, subscribeResult] at hok
        | ok value =>
          cases value with
          | str x => exact ⟨x, rfl⟩
          | _ => simp [waited, subscribeResult] at hok
  · rintro ⟨x, rfl⟩
    rfl

/-! ### The four ways to begin -/

theorem step_subscribe (hadm : h.admits call = true) (failure : Option TransportError) :
    h.step s now (.subscribe call feed params callback failure) =
      h.subscribe s now call feed params callback failure := by
  simp only [step, hadm, if_true]

/-- A subscribe that the connection refused leaves the tables as they were, and a reply to it that
comes all the same changes nothing. -/
theorem subscribe_refused (hr : Reachable s h) (hadm : h.admits call = true)
    (hlink : h.link = some link) (hfree : Table.get? feed h.registry.slots = none) (now : Duration)
    (params : Value) (callback : Callback) (e : TransportError) :
    let begun : Moment := ⟨h, now, .subscribe call feed params callback (some e)⟩
    begun.outputs s = [.sent link (Request.subscribe h.nextId feed params).text (some e),
      .returned call (.error (.transport e))] ∧
    (begun.after s).registry = h.registry ∧
    (∀ key, Table.get? key (begun.after s).correlator.pending =
      Table.get? key h.correlator.pending) ∧
    ∀ events, NoTrace h.nextKey ((begun.after s).after s events) ∧
      ∀ m ∈ moments s (begun.after s) events, ∀ outcome, m.effect s = .reply h.nextKey outcome →
        (m.after s).tables = m.before.tables := by
  intro begun
  have hc := hr.coherent
  obtain ⟨registry, hres⟩ : ∃ r, h.registry.reserve feed (.subscribe h.nextId feed params)
    callback = .ok r := Registry.insertReserved_of_free (Table.has_eq_false_iff.mpr hfree)
  have hundo : (registry.release h.nextKey).2 = h.registry :=
    Registry.release_insertReserved hc.tables.token_fresh hres
  have hstep : h.step s now (.subscribe call feed params callback (some e)) = _ :=
    (step_subscribe hadm (some e)).trans (subscribe_of_refused hlink hres e)
  have hafter : begun.after s = _ := congrArg Prod.fst hstep
  have hregistry : (begun.after s).registry = h.registry := by rw [hafter]; exact hundo
  have hpending : ∀ key, Table.get? key (begun.after s).correlator.pending =
      Table.get? key h.correlator.pending := by
    intro key
    rw [hafter]
    exact Correlator.get?_pending_evict_register hc.tables.pending_fresh ..
  have hissued : Issued (begun.after s).nextId h.nextKey := by
    rw [hafter]
    exact issued_fresh h.nextId
  have hr' : Reachable s (begun.after s) := hr.step now _
  have hnone : Table.get? h.nextKey (begun.after s).correlator.pending = none :=
    (hpending _).trans hc.tables.pending_fresh
  refine ⟨congrArg Prod.snd hstep, hregistry, hpending, fun events => ⟨⟨?_, ?_⟩, ?_⟩⟩
  · exact (hr'.evolves_after events).pending_none hissued hnone
  · refine (hr'.evolves_after events).request_none hissued fun f slot hslot hkey => ?_
    rw [hregistry] at hslot
    have hold := hr.request_issued hslot
    rw [hkey] at hold
    exact not_issued_fresh h.nextId hold
  · intro m hm outcome heff
    refine late_reply_after hr' hissued hnone ?_ hm heff
    rw [hregistry]
    exact hc.tables.token_fresh

/-- A subscribe that was written, once it has ended: nothing waits for its reply any more, and if
its reservation was never confirmed, there is no trace of it. -/
theorem subscribe_ended (hr : Reachable s h) {pending : PendingReply} {deadline : Duration}
    (hcall : Table.get? call h.calls = some (.subscribing feed pending deadline))
    (hkey : request.id.key = pending.key)
    (hown : ∀ f slot, Table.get? f h.registry.slots = some slot →
      slot.request.id.key = request.id.key → f = feed ∧ slot = .reserved request callback none)
    (hends : ∃ m ∈ moments s h events, m.Ends s call) :
    (h.after s events).correlator.contains pending.key = false ∧
    (∀ now' event outcome, (h.after s events).effect s now' event = .reply pending.key outcome →
      ((h.after s events).step s now' event).1.tables = (h.after s events).tables) ∧
    ((∀ m ∈ moments s h events, ¬m.Confirms s feed request callback) →
      NoTrace pending.key (h.after s events)) := by
  obtain ⟨hnone, htoken⟩ := withdrawn_after hr hcall rfl events hends
  have hc := (hr.after events).coherent
  refine ⟨Table.has_eq_false_iff.mpr hnone, fun now' event outcome heff => ?_, fun hconfirms => ?_⟩
  · exact tables_of_late_reply hc hnone htoken heff
  · refine ⟨hnone, fun f slot hslot hslotKey => ?_⟩
    have hissued : Issued h.nextId request.id.key :=
      hkey ▸ hr.coherent.tables.waiter_issued (mem_waiters_of_call hcall rfl)
    obtain ⟨rfl, rfl⟩ := own_slot hr hissued hown hconfirms f slot hslot (hslotKey.trans hkey.symm)
    -- what is left could only be its reservation, but there is none under its key
    have hreserved := hc.tables.registry.token_of_slot hslot
    rw [hkey] at hreserved
    exact absurd (hreserved.symm.trans htoken) (by simp)

/-- A subscribe that waits: what it returns at the next moment, and what the table looks like when
it has ended there. -/
theorem subscribe_next (hr : Reachable s h) {pending : PendingReply} {deadline : Duration}
    (hcall : Table.get? call h.calls = some (.subscribing feed pending deadline))
    (hs : h.correlator.settlement? pending.ticket = none) (hkey : request.id.key = pending.key)
    (hown : ∀ f slot, Table.get? f h.registry.slots = some slot →
      slot.request.id.key = request.id.key → f = feed ∧ slot = .reserved request callback none)
    (hstay : ∀ m ∈ moments s h events, ¬m.Ends s call) (now' : Duration) (event : Event) :
    let next : Moment := ⟨h.after s events, now', event⟩
    next.results s call =
      (if event.resumes call then
        ((waited s pending.what deadline now'
          (firstVerdict s pending.key (moments s h events))).map (subscribeResult feed)).toList
      else []) ∧
    (next.results s call = [.ok none] ↔ event.resumes call = true ∧
      ∃ m ∈ moments s h events, m.Confirms s feed request callback) ∧
    (next.Ends s call ↔ event = .abandon call ∨ next.results s call ≠ []) ∧
    (next.Ends s call → LeavesOthers pending.key (h.after s events) (next.after s)) := by
  intro next
  obtain ⟨hcall', hsettlement⟩ := settlement?_after hr hcall rfl hs events hstay
  have hc' := (hr.after events).coherent
  have hresults : next.results s call =
      (if event.resumes call then
        ((waited s pending.what deadline now'
          (firstVerdict s pending.key (moments s h events))).map (subscribeResult feed)).toList
      else []) := by
    have hturn := congrArg (fun v => (waited s pending.what deadline now' v).map
      (subscribeResult feed)) hsettlement
    rw [results_of_waiting s now' event hcall' rfl]
    exact congrArg (fun turn : Option CallResult => if event.resumes call then turn.toList else [])
      hturn
  refine ⟨hresults, ?_, ends_iff s now' event hc' hcall' rfl, fun hends => ?_⟩
  · rw [← firstVerdict_str_iff hr hcall hs hkey hown hstay, ← subscribeResult_waited_iff, hresults]
    cases event.resumes call with
    | false => simp
    | true =>
      simp only [if_true, true_and]
      exact Option.toList_eq_singleton_iff
  · rcases get?_calls_step s now' event hc' hcall' rfl with ⟨hkeep, -⟩ | ⟨-, heff⟩
    · exact absurd (hkeep.symm.trans hends) (by simp)
    · exact leavesOthers_withdraw hc' heff

/-- **The result of a subscribe and the registry agree.**

* Without a connection, and for a feed that is held, a subscribe returns at once, writes nothing and
  leaves the tables as they were.
* Where the connection refuses the request, it returns at once and leaves nothing behind.
* Otherwise it is written once, and in every run that follows a reply to it touches nothing that
  other requests have made. Once the call has ended, nobody waits for that reply, which then changes
  nothing; and unless its reservation was confirmed, there is no trace of it. Until then the call
  returns at its own turn what the first verdict says, and that it has subscribed exactly if its own
  reservation was confirmed by a string; and when it ends, it takes back nothing but its own. -/
theorem subscribe_agrees_with_registry (hr : Reachable s h) (hadm : h.admits call = true)
    (now : Duration) (feed : Feed) (params : Value) (callback : Callback) :
    let begun (failure : Option TransportError) : Moment :=
      ⟨h, now, .subscribe call feed params callback failure⟩
    let request := Request.subscribe h.nextId feed params
    (∀ failure, h.link = none →
      (begun failure).outputs s = [.returned call (.error .notConnected)] ∧
      ((begun failure).after s).tables = h.tables) ∧
    (∀ failure link, h.link = some link → Table.has feed h.registry.slots = true →
      (begun failure).outputs s = [.returned call (.error (.alreadySubscribed feed))] ∧
      ((begun failure).after s).tables = h.tables) ∧
    (∀ e link, h.link = some link → Table.has feed h.registry.slots = false →
      let sent := begun (some e)
      sent.outputs s = [.sent link request.text (some e),
        .returned call (.error (.transport e))] ∧
      (sent.after s).registry = h.registry ∧
      (∀ key, Table.get? key (sent.after s).correlator.pending =
        Table.get? key h.correlator.pending) ∧
      ∀ events, NoTrace h.nextKey ((sent.after s).after s events) ∧
        ∀ m ∈ moments s (sent.after s) events, ∀ outcome, m.effect s = .reply h.nextKey outcome →
          (m.after s).tables = m.before.tables) ∧
    ∀ link, h.link = some link → Table.has feed h.registry.slots = false →
      let sent := begun none
      sent.outputs s = [.sent link request.text none] ∧
      ∀ events : List (Duration × Event),
        let ms := moments s (sent.after s) events
        let h' := (sent.after s).after s events
        (∀ m ∈ ms, ∀ outcome, m.effect s = .reply h.nextKey outcome →
          LeavesOthers h.nextKey m.before (m.after s)) ∧
        ((∃ m ∈ ms, m.Ends s call) →
          h'.correlator.contains h.nextKey = false ∧
          (∀ now' event outcome, h'.effect s now' event = .reply h.nextKey outcome →
            (h'.step s now' event).1.tables = h'.tables) ∧
          ((∀ m ∈ ms, ¬m.Confirms s feed request callback) → NoTrace h.nextKey h')) ∧
        ((∀ m ∈ ms, ¬m.Ends s call) → ∀ (now' : Duration) (event : Event),
          let next : Moment := ⟨h', now', event⟩
          next.results s call =
            (if event.resumes call then
              ((waited s ("subscribe to " ++ feed.name) (now + s.timeouts.requestWait) now'
                (firstVerdict s h.nextKey ms)).map (subscribeResult feed)).toList
            else []) ∧
          (next.results s call = [.ok none] ↔ event.resumes call = true ∧
            ∃ m ∈ ms, m.Confirms s feed request callback) ∧
          (next.Ends s call ↔ event = .abandon call ∨ next.results s call ≠ []) ∧
          (next.Ends s call → LeavesOthers h.nextKey h' (next.after s))) := by
  intro begun request
  refine ⟨?_, ?_, ?_, ?_⟩
  · intro failure hlink
    have hstep : h.step s now (.subscribe call feed params callback failure) = _ :=
      (step_subscribe hadm failure).trans (subscribe_of_detached hlink failure)
    exact ⟨congrArg Prod.snd hstep, congrArg (fun out => out.1.tables) hstep⟩
  · intro failure link hlink hheld
    have hstep : h.step s now (.subscribe call feed params callback failure) = _ :=
      (step_subscribe hadm failure).trans (subscribe_of_held hlink hheld failure)
    exact ⟨congrArg Prod.snd hstep, congrArg (fun out => out.1.tables) hstep⟩
  · intro e link hlink hfree
    exact subscribe_refused hr hadm hlink (Table.has_eq_false_iff.mp hfree) now params callback e
  · intro link hlink hfree
    obtain ⟨hsent, hcall, hunsettled, hown⟩ := subscribe_begins hr hadm hlink
      (Table.has_eq_false_iff.mp hfree) now params callback
    have hr₀ : Reachable s ((begun none).after s) := hr.step now _
    refine ⟨hsent, fun events => ⟨fun m hm outcome heff => ?_, fun hends => ?_, fun hstay => ?_⟩⟩
    · exact leavesOthers_reply (hr₀.of_mem_moments hm).coherent heff
    · exact subscribe_ended hr₀ hcall rfl hown hends
    · exact subscribe_next hr₀ hcall hunsettled rfl hown hstay

/-- The first subscribe of a handler, answered with a string, returns that it has subscribed, and
the answer has confirmed its reservation. -/
theorem first_subscribe_agrees_with_registry :
    let sent : Moment := ⟨initial ⟨0⟩, .zero, .subscribe ⟨"a"⟩ .newTxs .null ⟨"f"⟩ none⟩
    let answer : Event := .received ⟨0⟩ "\x7b\"id\":\"1\",\"result\":\"x\"\x7d"
    let answered := (sent.after .standard).after .standard [(.zero, answer)]
    (Moment.mk answered .zero (.resume ⟨"a"⟩ none)).results .standard ⟨"a"⟩ = [.ok none] ∧
    ∃ m ∈ moments .standard (sent.after .standard) [(.zero, answer)],
      m.Confirms .standard .newTxs (.subscribe 1 .newTxs .null) ⟨"f"⟩ := by
  intro sent answer answered
  have hadm : (initial ⟨0⟩).admits ⟨"a"⟩ = true := by decide
  have hlink : (initial ⟨0⟩).link = some ⟨0⟩ := rfl
  obtain ⟨-, -, -, haccepted⟩ := subscribe_agrees_with_registry
    (.initial (s := .standard) ⟨0⟩) hadm .zero .newTxs .null ⟨"f"⟩
  have hstay : ∀ m ∈ moments .standard (sent.after .standard) [(.zero, answer)],
      ¬m.Ends .standard ⟨"a"⟩ := by
    intro m hm hend
    obtain rfl := List.mem_singleton.mp hm
    have hcall : (Table.get? ⟨"a"⟩ ((Moment.mk (sent.after .standard) .zero answer).after
      .standard).calls).isSome = true := by cbv
    rw [Option.isSome_iff_ne_none] at hcall
    exact hcall hend
  obtain ⟨hresults, hconfirmed, -⟩ := ((haccepted ⟨0⟩ hlink rfl).2 [(.zero, answer)]).2.2 hstay
    .zero (.resume ⟨"a"⟩ none)
  have hok : (Moment.mk answered .zero (.resume ⟨"a"⟩ none)).results .standard ⟨"a"⟩ =
      [.ok none] := hresults.trans (by cbv)
  exact ⟨hok, (hconfirmed.mp hok).2⟩

end Handler

end FeedLink.Socket
