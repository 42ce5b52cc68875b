import FeedLink.Proofs.Socket.Call

/-!
# The invariant of a handler

`Handler.Coherent` is the invariant on which everything else about handlers rests. It has two parts.
The tables agree with each other and with the calls and replays that wait (`Consistent`, and `Live`
while the reader reads). The rest ties the connection to the reader: what is attached is what the
reader reads from, and where nothing is attached nobody is pending.

Most steps change the tables in one of the few ways of `Consistent`, and keep the invariant for that
reason. The two that walk along a list, in a recovery, have a module of their own, where it is shown
of every reachable handler.

## Main definitions

* `Handler.waiters` — the calls and the replays that wait for a reply
* `Handler.Coherent`

## Main results

* `Handler.coherent_initial` — the first connection has it
* `Handler.Coherent.subscribe`, `Handler.Coherent.close`, `Handler.Coherent.resume` and their like —
  what a caller does keeps it
* `Handler.Coherent.handleText`, `Handler.Coherent.lose` — what the reader does keeps it
-/

namespace FeedLink.Socket

open Json

/-- A replay as somebody who waits. -/
def Replay.waiter (r : Replay) : Waiter := ⟨.replay r.feed, r.pending⟩

/-- Those who wait behind calls. -/
def callWaiters (calls : Table CallId Call) : List Waiter := calls.filterMap (·.2.waiter?)

/-- The replays of batches as those who wait. -/
def batchWaiters (batches : List Batch) : List Waiter :=
  batches.flatMap (·.replays.map Replay.waiter)

/-- Does the reader wait for a dial, or to dial again? -/
def Reader.isRedialing : Reader → Bool
  | .dialing _ | .pausing .. => true
  | .reading _ | .ended _ => false

theorem Reader.isRedialing_of_dialing {r : Reader} {backoff : Backoff}
    (hr : r = .dialing backoff) : r.isRedialing = true := by
  rw [hr]
  rfl

namespace Handler

/-- Everybody who waits for a reply. -/
def waiters (h : Handler) : List Waiter := callWaiters h.calls ++ batchWaiters h.batches

/-- The invariant of a handler. -/
structure Coherent (h : Handler) : Prop where
  tables : Consistent h.correlator h.registry h.nextId h.waiters
  calls : Table.Distinct h.calls
  recoveries : (h.batches.map (·.recovery)).Nodup
  recovery_le : ∀ b ∈ h.batches, b.recovery ≤ h.recovery
  /-- While the reader reads, every reservation waits for a reply. -/
  live : ∀ {l}, h.reader = .reading l → Live h.correlator h.registry
  /-- The reader reads from the connection that is attached. -/
  attached : ∀ {l}, h.link = some l → h.released = false →
    h.reader = .reading l ∧ h.stopping = false
  /-- Nobody is pending where nothing is attached. -/
  detached : h.link = none → h.released = false → h.correlator.pending = []
  redialing : h.reader.isRedialing = true → h.link = none ∧ h.correlator.pending = []
  released : h.released = true → h.calls = []
  closed : h.state = .closed → h.stopping = true
  /-- Only a closed handler and one without a reader are told to stop. -/
  stopped : h.stopping = true → h.released = false →
    h.state = .closed ∨ ∃ outcome, h.reader = .ended outcome

theorem coherent_initial (link : LinkId) : (initial link).Coherent where
  tables := consistent_empty 1
  calls := Table.distinct_nil
  recoveries := List.nodup_nil
  recovery_le := by simp [initial]
  live := fun _ => live_empty _
  attached := by
    intro l hl _
    exact ⟨congrArg Reader.reading (Option.some.inj hl), rfl⟩
  detached := by simp [initial]
  redialing := by simp [initial, Reader.isRedialing]
  released := by simp [initial]
  closed := by simp [initial]
  stopped := by simp [initial]

variable {h : Handler} {s : Settings} {now : Duration} {call : CallId} {link : LinkId}

/-! ### Calls come and go -/

theorem callWaiters_set (call : CallId) (c : Call) (calls : Table CallId Call) :
    callWaiters (Table.set call c calls) =
      c.waiter?.toList ++ callWaiters (Table.erase call calls) := by
  cases hw : c.waiter? <;> simp [callWaiters, Table.set, hw]

theorem callWaiters_perm_erase {calls : Table CallId Call} (hd : Table.Distinct calls)
    (call : CallId) :
    (callWaiters calls).Perm
      (((Table.get? call calls).bind Call.waiter?).toList ++
        callWaiters (Table.erase call calls)) := by
  cases hc : Table.get? call calls with
  | none => rw [Table.erase_of_none hc]; rfl
  | some c =>
    refine ((Table.perm_cons_erase hd hc).filterMap _).trans ?_
    cases hw : c.waiter? <;> simp [callWaiters, hw]

/-- The waiters, with the one behind a call in front. -/
theorem waiters_perm_erase (hc : h.Coherent) (call : CallId) :
    h.waiters.Perm
      (((Table.get? call h.calls).bind Call.waiter?).toList ++
        (callWaiters (Table.erase call h.calls) ++ batchWaiters h.batches)) := by
  rw [← List.append_assoc]
  exact (callWaiters_perm_erase hc.calls call).append_right _

/-- No call is in progress on a handler that was dropped. -/
theorem Coherent.not_released (hc : h.Coherent) {c : Call}
    (hcall : Table.get? call h.calls = some c) : h.released = false := by
  cases hr : h.released with
  | false => rfl
  | true => simp [hc.released hr] at hcall

theorem mem_waiters_of_call {c : Call} {w : Waiter}
    (hcall : Table.get? call h.calls = some c) (hw : c.waiter? = some w) : w ∈ h.waiters :=
  List.mem_append_left _ (List.mem_filterMap.mpr ⟨_, Table.mem_of_get? hcall, hw⟩)

theorem mem_waiters_of_replay {b : Batch} {p : Replay} (hb : b ∈ h.batches)
    (hp : p ∈ b.replays) : p.waiter ∈ h.waiters :=
  List.mem_append_right _ (List.mem_flatMap.mpr ⟨b, hb, List.mem_map_of_mem hp⟩)

/-- A call leaves behind which nobody waits. -/
theorem Coherent.eraseCall (hc : h.Coherent)
    (hcall : (Table.get? call h.calls).bind Call.waiter? = none) :
    ({ h with calls := Table.erase call h.calls } : Handler).Coherent :=
  { hc with
    tables := by
      have hperm := h.waiters_perm_erase hc call
      rw [hcall] at hperm
      exact hc.tables.perm hperm.symm
    calls := Table.distinct_erase hc.calls _
    released := fun hr => by simp [hc.released hr, Table.erase] }

/-- A call waits on behind which nobody waits for a reply. -/
theorem Coherent.setCall (hc : h.Coherent) (hr : h.released = false) {c : Call}
    (hw : c.waiter? = none) (hcall : (Table.get? call h.calls).bind Call.waiter? = none) :
    ({ h with calls := Table.set call c h.calls } : Handler).Coherent :=
  { hc with
    tables := by
      have hperm := h.waiters_perm_erase hc call
      rw [hcall] at hperm
      refine hc.tables.perm ?_
      rw [waiters, callWaiters_set, hw]
      exact hperm.symm
    calls := Table.distinct_set hc.calls _ _
    released := fun hr' => by simp [hr] at hr' }

/-- A call leaves behind which somebody waited, and takes its registration and its reservation
with it. -/
theorem Coherent.withdrawCall (hc : h.Coherent) {w : Waiter} {c : Call}
    (hcall : Table.get? call h.calls = some c) (hw : c.waiter? = some w) :
    ({ h.withdraw w.key with calls := Table.erase call h.calls } : Handler).Coherent :=
  { hc with
    tables := by
      have hperm := h.waiters_perm_erase hc call
      rw [hcall, Option.bind_some, hw] at hperm
      exact (hc.tables.perm hperm.symm).withdraw
    calls := Table.distinct_erase hc.calls _
    live := fun hl => (hc.live hl).release w.key .dropped
    detached := fun hl hr => by
      simp [withdraw, Correlator.evict, Correlator.settle, hc.detached hl hr]
    redialing := fun hr => by
      simp [withdraw, Correlator.evict, Correlator.settle, hc.redialing hr]
    released := fun hr => by simp [hc.released hr, Table.erase] }

/-! ### Beginning a call -/

/-- A correlation id is drawn. -/
theorem Coherent.issue (hc : h.Coherent) :
    ({ h with nextId := h.nextId + 1 } : Handler).Coherent :=
  { hc with tables := hc.tables.mono (Nat.le_succ _) }

/-- Somebody has begun to wait behind a call, or could not, with tables that are consistent with
that. -/
private theorem Coherent.beginCall (hc : h.Coherent) (hadm : h.admits call = true)
    (hlink : h.link = some link) (w? : Option Waiter) {calls : Table CallId Call}
    {correlator : Correlator} {registry : Registry}
    (hcalls : callWaiters calls = w?.toList ++ callWaiters h.calls) (hd : Table.Distinct calls)
    (ht : Consistent correlator registry (h.nextId + 1) (w?.toList ++ h.waiters))
    (hl : Live correlator registry) :
    ({ h with nextId := h.nextId + 1, correlator, registry, calls } : Handler).Coherent := by
  have hr := (admits_iff.mp hadm).1
  have hreader := (hc.attached hlink hr).1
  refine { hc with
    tables := ?_
    calls := hd
    live := fun _ => hl
    detached := fun h' => by simp [hlink] at h'
    redialing := fun h' => by simp [hreader, Reader.isRedialing] at h'
    released := fun hr' => by simp [hr] at hr' }
  rw [waiters, hcalls, List.append_assoc]
  exact ht

/-- A call begins to wait under a name that no call has. -/
theorem callWaiters_set_of_admits (hadm : h.admits call = true) (c : Call) :
    callWaiters (Table.set call c h.calls) = c.waiter?.toList ++ callWaiters h.calls := by
  rw [callWaiters_set, Table.erase_of_none (admits_iff.mp hadm).2]

theorem Coherent.live_of_link (hc : h.Coherent) (hadm : h.admits call = true)
    (hlink : h.link = some link) : Live h.correlator h.registry :=
  hc.live (hc.attached hlink (admits_iff.mp hadm).1).1

theorem Coherent.subscribe (hc : h.Coherent) (hadm : h.admits call = true) (feed : Feed)
    (params : Value) (callback : Callback) (failure : Option TransportError) :
    (h.subscribe s now call feed params callback failure).1.Coherent := by
  cases hlink : h.link with
  | none => rw [subscribe_of_detached hlink]; exact hc.issue
  | some link =>
    cases hheld : Table.has feed h.registry.slots with
    | true => rw [subscribe_of_held hlink hheld]; exact hc.issue
    | false =>
      obtain ⟨registry, hres⟩ : ∃ r, h.registry.reserve feed (.subscribe h.nextId feed params)
        callback = .ok r := Registry.insertReserved_of_free hheld
      have hlive := (hc.live_of_link hadm hlink).reserve hc.tables.pending_fresh hres
        ("subscribe to " ++ feed.name)
      have htables := hc.tables.reserve (.subscribe feed) rfl hres rfl rfl
        ("subscribe to " ++ feed.name)
      cases failure with
      | none =>
        rw [subscribe_of_accepted hlink hres]
        exact hc.beginCall hadm hlink (some ⟨.subscribe feed, _⟩)
          (callWaiters_set_of_admits hadm _) (Table.distinct_set hc.calls ..)
          (register_fst h _ ▸ htables) hlive
      | some e =>
        rw [subscribe_of_refused hlink hres]
        exact hc.beginCall hadm hlink none rfl hc.calls htables.withdraw
          (hlive.release _ .dropped)

theorem Coherent.request (hc : h.Coherent) (hadm : h.admits call = true) (method : String)
    (params : Value) (failure : Option TransportError) :
    (h.request s now call method params failure).1.Coherent := by
  cases hlink : h.link with
  | none => rw [request_of_detached hlink]; exact hc.issue
  | some link =>
    have hlive := (hc.live_of_link hadm hlink).register hc.tables.pending_fresh method
    have htables := hc.tables.register method
    cases failure with
    | none =>
      rw [request_of_accepted hlink]
      exact hc.beginCall hadm hlink (some ⟨.request, _⟩)
        (callWaiters_set_of_admits hadm _) (Table.distinct_set hc.calls ..)
        (register_fst h _ ▸ htables) hlive
    | some e =>
      -- nothing is reserved under a new key, so there is nothing to take back
      have hrelease := Registry.release_of_none hc.tables.token_fresh
      have htables' := htables.withdraw
      have hlive' := hlive.release (RequestId.fresh h.nextId).key .dropped
      simp only [Waiter.key, Correlator.key_register] at htables'
      rw [hrelease] at htables' hlive'
      rw [request_of_refused hlink]
      exact hc.beginCall hadm hlink none rfl hc.calls htables' hlive'

/-! ### Unsubscribing -/

theorem Coherent.unsubscribeOnce (hc : h.Coherent) (feed : Feed)
    (failure : Option TransportError) : (h.unsubscribeOnce feed failure).1.Coherent := by
  rcases h.unsubscribeOnce_cases feed failure with heq | heq | heq <;> rw [heq]
  · exact hc
  · exact hc.issue
  · exact { hc.issue with
      tables := (hc.tables.unregister feed).mono (Nat.le_succ _)
      live := fun hl => (hc.live hl).unregister feed }

theorem Coherent.unsubscribeAttempt (hc : h.Coherent) (hr : h.released = false)
    (hcall : (Table.get? call h.calls).bind Call.waiter? = none) (feed : Feed)
    (backoff : Backoff) (failure : Option TransportError) :
    (h.unsubscribeAttempt now call feed backoff failure).1.Coherent := by
  have honce := hc.unsubscribeOnce feed failure
  have hcall' : (Table.get? call (h.unsubscribeOnce feed failure).1.calls).bind Call.waiter? =
      none := by rwa [calls_unsubscribeOnce]
  unfold Handler.unsubscribeAttempt
  dsimp only
  split
  · exact honce.eraseCall hcall'
  · exact honce.eraseCall hcall'
  · split
    · exact honce.eraseCall hcall'
    · exact honce.setCall (by simpa using hr) rfl hcall'

/-! ### Closing, joining, dropping -/

theorem Coherent.close (hc : h.Coherent) (hadm : h.admits call = true)
    (failure : Option TransportError) : (h.close s now call failure).1.Coherent := by
  obtain ⟨hr, hcall⟩ := admits_iff.mp hadm
  unfold Handler.close
  split
  · exact hc
  · have hempty : ∀ n, h.nextId ≤ n →
        ({ h with
          state := .closed, correlator := h.correlator.clear.2, registry := h.registry.takeAll.2
          link := none, stopping := true, nextId := n } : Handler).Coherent := fun n hn =>
      { hc with
        tables := (hc.tables.clear.takeAll rfl).mono hn
        live := fun _ => live_empty _
        attached := by simp
        detached := fun _ _ => rfl
        redialing := fun _ => ⟨rfl, rfl⟩
        closed := fun _ => rfl
        stopped := fun _ _ => .inl rfl }
    have hset : ∀ n, h.nextId ≤ n → ∀ deadline,
        ({ h with
          state := .closed, correlator := h.correlator.clear.2, registry := h.registry.takeAll.2
          link := none, stopping := true, nextId := n
          calls := Table.set call (.closing deadline) h.calls } : Handler).Coherent :=
      fun n hn deadline => (hempty n hn).setCall hr rfl (by simp [hcall])
    cases h.link with
    | none =>
      dsimp only
      split
      · exact hempty _ (Nat.le_refl _)
      · exact hset _ (Nat.le_refl _) _
    | some link =>
      dsimp only
      split
      · exact hempty _ (Nat.le_succ _)
      · exact hset _ (Nat.le_succ _) _

theorem Coherent.join (hc : h.Coherent) (hadm : h.admits call = true) :
    (h.join call).1.Coherent := by
  obtain ⟨hr, hcall⟩ := admits_iff.mp hadm
  have hjoined : ({ h with joined := true } : Handler).Coherent := { hc with }
  unfold Handler.join
  split
  · exact hc
  · dsimp only
    split
    · exact hjoined
    · exact hjoined.setCall hr rfl (by simp [hcall])

theorem Coherent.abandon (hc : h.Coherent) (call : CallId) : (h.abandon call).Coherent := by
  cases hidle : (Table.get? call h.calls).bind Call.waiter? with
  | none =>
    rw [abandon_of_idle hidle]
    exact hc.eraseCall hidle
  | some w =>
    obtain ⟨c, hcall, hw⟩ := Option.bind_eq_some_iff.mp hidle
    rw [abandon_of_waiter hcall hw]
    exact hc.withdrawCall hcall hw

theorem Coherent.release (hc : h.Coherent) (hcalls : h.calls = []) : h.release.1.Coherent :=
  { hc with
    attached := by simp [Handler.release]
    detached := by simp [Handler.release]
    redialing := fun h' => ⟨rfl, (hc.redialing h').2⟩
    released := fun _ => hcalls
    closed := fun _ => rfl
    stopped := by simp [Handler.release] }

theorem Coherent.resume (hc : h.Coherent) (call : CallId) (failure : Option TransportError) :
    (h.resume s now call failure).1.Coherent := by
  unfold Handler.resume
  split
  · exact hc
  · next hcall =>
    split
    · exact hc
    · exact hc.withdrawCall hcall rfl
  · next hcall =>
    split
    · exact hc
    · exact hc.withdrawCall hcall rfl
  · next hcall =>
    split
    · exact hc.unsubscribeAttempt (hc.not_released hcall) (by rw [hcall]; rfl) ..
    · exact hc
  · next hcall =>
    have herase : ({ h with calls := Table.erase call h.calls } : Handler).Coherent :=
      hc.eraseCall (by rw [hcall]; rfl)
    split
    · exact herase
    · split
      · exact herase
      · exact hc
  · next hcall =>
    split
    · exact hc.eraseCall (by rw [hcall]; rfl)
    · exact hc

/-! ### The reader -/

/-- The reader stops where nothing is attached, or the handler was dropped. -/
theorem Coherent.stop (hc : h.Coherent) (hl : h.link = none ∨ h.released = true)
    (outcome : Except HandlerError Unit) : (h.stop outcome).Coherent :=
  { hc with
    live := by simp [Handler.stop]
    attached := fun hlink hr => by
      rcases hl with hl | hl
      · simp [Handler.stop, hl] at hlink
      · simp [Handler.stop, hl] at hr
    redialing := by simp [Handler.stop, Reader.isRedialing]
    stopped := fun _ _ => .inr ⟨outcome, rfl⟩ }

theorem Coherent.stop_of_stopping (hc : h.Coherent) (hs : h.stopping = true)
    (outcome : Except HandlerError Unit) : (h.stop outcome).Coherent := by
  refine hc.stop ?_ outcome
  cases hlink : h.link with
  | none => exact .inl rfl
  | some l =>
    cases hr : h.released with
    | true => exact .inr rfl
    | false => simp [(hc.attached hlink hr).2] at hs

theorem readOn_of_link (hlink : h.link = some link) :
    h.readOn = { h with reader := .reading link } := by
  simp only [Handler.readOn, hlink]

theorem readOn_of_detached (hlink : h.link = none) : h.readOn = h.stop (.ok ()) := by
  simp only [Handler.readOn, hlink]

theorem Coherent.readOn (hc : h.Coherent) {l : LinkId} (hreader : h.reader = .reading l) :
    h.readOn.Coherent := by
  cases hlink : h.link with
  | none => rw [readOn_of_detached hlink]; exact hc.stop (.inl hlink) _
  | some link =>
    rw [readOn_of_link hlink]
    exact { hc with
      live := fun _ => hc.live hreader
      attached := fun h' hr => ⟨congrArg Reader.reading (Option.some.inj (hlink.symm.trans h')),
        (hc.attached h' hr).2⟩
      redialing := by simp [Reader.isRedialing]
      stopped := fun hs hr => by simp [(hc.attached hlink hr).2] at hs }

theorem Coherent.handleReply (hc : h.Coherent) (key : String) (outcome : Outcome) :
    (h.handleReply key outcome).Coherent := by
  have htables : Consistent (h.correlator.dispatch key outcome).2
      (h.handleReply key outcome).registry h.nextId h.waiters ∧
      (Live h.correlator h.registry →
        Live (h.correlator.dispatch key outcome).2 (h.handleReply key outcome).registry) := by
    rw [registry_handleReply]
    split
    · exact ⟨hc.tables.confirm .., fun hl => hl.confirm _ _ _⟩
    · exact ⟨hc.tables.release .., fun hl => hl.release _ _⟩
  exact { hc with
    tables := htables.1
    live := fun hl => htables.2 (hc.live hl)
    detached := fun hl hr => by
      simp [Handler.handleReply, Correlator.dispatch, Correlator.settle, hc.detached hl hr]
    redialing := fun hr => by
      refine ⟨(hc.redialing hr).1, ?_⟩
      simp [Handler.handleReply, Correlator.dispatch, Correlator.settle, (hc.redialing hr).2] }

theorem Coherent.handleText (hc : h.Coherent) (text : String) :
    (h.handleText s text).1.Coherent := by
  rcases handleText_cases s h text with heq | ⟨key, outcome, -, heq⟩ <;> rw [heq]
  · exact hc
  · exact hc.handleReply key outcome

theorem Coherent.lose (hc : h.Coherent) {l : LinkId} (hreader : h.reader = .reading l)
    (e : TransportError) : (h.lose s now link e).1.Coherent := by
  unfold Handler.lose
  split
  · next hs => exact hc.stop_of_stopping hs _
  · next hs =>
    split
    · split
      · exact hc.readOn hreader
      · exact { hc with
          tables := hc.tables.clear
          live := by simp
          attached := by simp
          detached := fun _ _ => rfl
          redialing := fun _ => ⟨rfl, rfl⟩
          closed := by simp
          stopped := fun h' => absurd h' hs }
    · exact { hc with
        tables := hc.tables.clear
        live := by simp [Handler.stop]
        attached := by simp [Handler.stop]
        detached := fun _ _ => rfl
        redialing := by simp [Handler.stop, Reader.isRedialing]
        closed := by simp [Handler.stop]
        stopped := fun h' => absurd h' hs }

end Handler

end FeedLink.Socket
